import RamlBridge.Proofs.Raml.Places
import RamlBridge.Proofs.Validation.Accepted
import RamlBridge.Raml.Document

/-!
Where the resources and the methods of an accepted description come from: the values of the
document that they are read from.
-/
namespace RamlBridge.Raml

open Checked

/-- A sequence of keys leads from entries that are read as resources to the value of a resource. -/
inductive LeadsTo : List (Scalar × Datum) → List String → Datum → Prop
  | here {es k name d} : (k, d) ∈ es → Checked.key k = .accepted name → LeadsTo es [name] d
  | deeper {es k name below parts keys d} : (k, .map below) ∈ es →
      Checked.key k = .accepted name → Parts.ofEntries below = .accepted parts →
      LeadsTo parts.resources keys d → LeadsTo es (name :: keys) d

/-- A value declares a method of the resource to which a sequence of keys leads. -/
inductive MethodAt (d : Datum) (keys : List String) (method : String) (a : Datum) : Prop
  | declared {es tops below parts k} : orEmpty d = .map es → topResources es = .accepted tops →
      LeadsTo tops keys (.map below) → Parts.ofEntries below = .accepted parts →
      (k, a) ∈ parts.actions → Checked.key k = .accepted method → MethodAt d keys method a

def valueUnder (name : String) (d : Datum) : Datum :=
  match orEmpty d with
  | .map es => group es name
  | _ => .null

def mediaTypeOf (d : Datum) : Datum := valueUnder "mediaType" d

theorem Resource.ensures_ofEntries (mediaType : Datum) (es : List (Scalar × Datum)) :
    Ensures (Resource.ofEntries mediaType es) fun r => ∃ parts,
      Parts.ofEntries es = .accepted parts ∧
      entries (Action.read mediaType) (.map parts.actions) = .accepted r.actions ∧
      entriesOf (parts.resources.map fun p => (p.1, Resource.read mediaType p.2)) =
        .accepted r.children := by
  rw [Resource.ofEntries_eq]
  refine .andThen fun parts hparts => ?_
  refine .seq ?_ (.under (.itself _))
  refine .seq ?_ (.under (.itself _))
  refine .seq ?_ (.any _)
  refine .seq ?_ (.any _)
  refine .map (.of_forall ?_)
  intro displayName description _ uriParameters _ actions hactions children hchildren
  exact ⟨parts, hparts, hactions, hchildren⟩

/-- A resource that holds anything is read from a map. -/
theorem Resource.map_of_read {mediaType d : Datum} {r : Resource}
    (h : Resource.read mediaType d = .accepted r) (holds : r.actions ≠ [] ∨ r.children ≠ []) :
    ∃ es parts, d = .map es ∧ Parts.ofEntries es = .accepted parts ∧
      entries (Action.read mediaType) (.map parts.actions) = .accepted r.actions ∧
      entriesOf (parts.resources.map fun p => (p.1, Resource.read mediaType p.2)) =
        .accepted r.children := by
  unfold Resource.read at h
  split at h
  · next es =>
    obtain ⟨parts, hparts, hactions, hchildren⟩ := Resource.ensures_ofEntries mediaType es r h
    exact ⟨es, parts, rfl, hparts, hactions, hchildren⟩
  · cases h
    exact absurd holds (by simp only [Resource.empty, ne_eq, not_true_eq_false, or_self,
      not_false_eq_true])
  · cases h

/-- Every resource of a forest is read from a value that the same keys lead to. -/
theorem source_of_leads {mediaType : Datum} {forest : Entries Resource} {keys : List String}
    {r : Resource} (leads : Leads forest keys r) {es : List (Scalar × Datum)}
    (h : entriesOf (es.map fun p => (p.1, Resource.read mediaType p.2)) = .accepted forest) :
    ∃ d, LeadsTo es keys d ∧ Resource.read mediaType d = .accepted r := by
  induction leads generalizing es with
  | here hmem =>
    obtain ⟨k, d, hp, hkey, hread⟩ := source_of_entriesOf h hmem
    exact ⟨d, .here hp hkey, hread⟩
  | deeper hmem hs ih =>
    obtain ⟨k, d, hp, hkey, hread⟩ := source_of_entriesOf h hmem
    obtain ⟨below, parts, rfl, hparts, _, hchildren⟩ :=
      Resource.map_of_read hread (Or.inr hs.forest_ne_nil)
    obtain ⟨value, hvalue, read⟩ := ih hchildren
    exact ⟨value, .deeper hp hkey hparts hvalue, read⟩

theorem Root.read_eq {d : Datum} {root : Root} (h : Root.read d = .accepted root) :
    ∃ es, orEmpty d = .map es ∧ mediaTypeOf d = group es "mediaType" ∧
      Root.ofEntries (mediaTypeOf d) es = .accepted root := by
  unfold Root.read at h
  split at h
  · next es => exact ⟨es, rfl, rfl, h⟩
  · exact ⟨[], rfl, rfl, h⟩
  · cases h

theorem Root.ensures_resources (mediaType : Datum) (es : List (Scalar × Datum)) :
    Ensures (Root.ofEntries mediaType es) fun root => ∃ tops,
      topResources es = .accepted tops ∧
      entriesOf (tops.map fun p => (p.1, Resource.read mediaType p.2)) =
        .accepted root.resources := by
  refine .andThen fun tops htops => ?_
  refine .seq ?_ (.under (.itself _))
  iterate 8 refine .seq ?_ (.any _)
  refine .map (.of_forall ?_)
  intro title version _ baseUri _ protocols _ mediaType _ declared _ documentation _ schemas _
    schemes _ resources hresources
  exact ⟨tops, htops, hresources⟩

/-- Every method of an accepted description is read from the value that declares it. -/
theorem source_of_method {d : Datum} {root : Root} (accepted : Root.read d = .accepted root)
    {keys : List String} {r : Resource} (leads : Leads root.resources keys r) {method : String}
    {action : Action} (hmem : (method, action) ∈ r.actions) :
    ∃ a, MethodAt d keys method a ∧ Action.read (mediaTypeOf d) a = .accepted action := by
  obtain ⟨es, hes, _, hroot⟩ := Root.read_eq accepted
  obtain ⟨tops, htops, hresources⟩ := Root.ensures_resources _ es root hroot
  obtain ⟨value, hvalue, hread⟩ := source_of_leads leads hresources
  obtain ⟨below, parts, rfl, hparts, hactions, _⟩ :=
    Resource.map_of_read hread (Or.inl (List.ne_nil_of_mem hmem))
  obtain ⟨k, a, ha, hkey, haction⟩ := source_of_entriesOf hactions hmem
  exact ⟨a, .declared hes htops hvalue hparts ha hkey, haction⟩

def petsApi (mediaType : String) (es : List (Scalar × Datum)) : Datum :=
  .map [(.text "mediaType", .text mediaType), (.text "/pets", .map es)]

theorem read_petsApi_eq (mediaType : String) (es : List (Scalar × Datum)) :
    Root.read (petsApi mediaType es) =
      map (fun r => ⟨"", none, none, [], some mediaType, [], [], [], [], [("/pets", r)]⟩)
        (under (.key "resources")
          (under (.key "/pets") (Resource.read (.text mediaType) (.map es)))) := by
  have resources : entriesOf [(.text "/pets", Resource.read (.text mediaType) (.map es))] =
      map (fun r => [("/pets", r)])
        (under (.key "/pets") (Resource.read (.text mediaType) (.map es))) := by
    cases Resource.read (.text mediaType) (.map es) <;> rfl
  change _ <*> under _ (entriesOf [(.text "/pets", Resource.read (.text mediaType) (.map es))]) = _
  rw [resources]
  cases Resource.read (.text mediaType) (.map es) <;> rfl

theorem read_petsApi {mediaType : String} {es : List (Scalar × Datum)} {r : Resource}
    (h : Resource.read (.text mediaType) (.map es) = .accepted r) :
    Root.read (petsApi mediaType es) =
      .accepted ⟨"", none, none, [], some mediaType, [], [], [], [], [("/pets", r)]⟩ := by
  rw [read_petsApi_eq, h]
  rfl

end RamlBridge.Raml

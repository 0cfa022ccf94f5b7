import RamlBridge.Proofs.Raml.Correspondence
import RamlBridge.Proofs.Raml.Sources
import RamlBridge.Proofs.Validation.TextKeys

/-!
The names under which the bodies of methods and of responses are filed: the media types that stand
as keys in the document, or the one media type of the document where no key is one.
-/
namespace RamlBridge.Raml

open Checked

/-- Whether a body names no media type: it is not empty, and none of its keys holds a slash. -/
def lacksMediaType (es : List (Scalar × Datum)) : Bool :=
  !es.isEmpty && !holdsSlash es

theorem lacksMediaType_iff {es : List (Scalar × Datum)} :
    lacksMediaType es = true ↔ es ≠ [] ∧ holdsSlash es = false := by
  rw [lacksMediaType, Bool.and_eq_true, Bool.not_eq_true', Bool.not_eq_true', ne_eq,
    ← List.isEmpty_iff, Bool.not_eq_true]

/-- The names of the bodies that a value declares, if one without a media type takes a given
one. -/
def bodyNames (mediaType : String) : Datum → List String
  | .map es =>
    if lacksMediaType es then [mediaType] else firstOccurrences (es.map fun p => keyText p.1)
  | _ => []

/-- A field whose check takes null for what is absent is what the check makes of its value. -/
theorem ensures_field {α : Type} {check : Datum → Checked α} {absent : α}
    (null : check .null = .accepted absent) (es : List (Scalar × Datum)) (name : String) :
    Ensures (field es name name absent check) fun a =>
      check (group es name) = .accepted a := by
  unfold field field? group
  cases found : Datum.lookup? es name with
  | some d => exact .under (.itself _)
  | none =>
    intro a ha
    cases ha
    exact null

variable {mediaType : Datum} {m : String}

theorem Body.ensures_names (known : bodyKey mediaType = .accepted (.text m)) (d : Datum) :
    Ensures (Body.readAll mediaType d) fun bodies => bodies.names = bodyNames m d := by
  cases d with
  | map es =>
    by_cases given : es = []
    · intro bodies h
      rw [given] at h ⊢
      cases h
      rfl
    · by_cases slash : holdsSlash es = true
      · have named : lacksMediaType es = false := by
          rw [lacksMediaType, slash, Bool.not_true, Bool.and_false]
        rw [Body.readAll_of_slash slash, keyedByText_eq]
        by_cases texts : (es.all fun p => hasText p.1) = true
        case neg =>
          rw [if_neg texts]
          exact .fault _
        rw [if_pos texts]
        intro bodies h
        rw [Ensures.names _ _ bodies h, Entries.names_ofList, bodyNames, named,
          firstOccurrences_of_nodup (nodup_firstOccurrences _), Entries.names, List.map_map]
        rfl
      · rw [Bool.not_eq_true] at slash
        have lacks := lacksMediaType_iff.mpr ⟨given, slash⟩
        rw [Body.readAll_of_noSlash given slash, known]
        refine .andThen fun _ _ bodies h => ?_
        rw [Ensures.names _ [(m, .map es)] bodies h, bodyNames, if_pos lacks]
        rfl
  | scalar s =>
    cases s with
    | null => exact fun bodies h => by cases h; rfl
    | bool | int | float | text | bytes | date | clock | moment | pair => exact .fault _
  | list items => exact .fault _
  | pair a b => exact .fault _
  | set members => exact .fault _

theorem Body.readAll_null (mediaType : Datum) : Body.readAll mediaType .null = .accepted [] := rfl

theorem Response.readAll_null (mediaType : Datum) :
    Response.readAll mediaType .null = .accepted [] := rfl

theorem valueUnder_of_fields {model : String} {d : Datum} {es : List (Scalar × Datum)}
    (h : fields model d = .accepted es) (name : String) : valueUnder name d = group es name := by
  cases d with
  | map fs =>
    cases h
    rfl
  | scalar s => cases h
  | list items => cases h
  | pair a b => cases h
  | set members => cases h

theorem Response.ensures_bodies (mediaType d : Datum) :
    Ensures (Response.read mediaType d) fun r =>
      Body.readAll mediaType (valueUnder "body" d) = .accepted r.bodies := by
  refine .andThen fun es hes => ?_
  rw [valueUnder_of_fields hes]
  refine .seq (.map (.of_forall ?_)) (ensures_field (Body.readAll_null mediaType) es "body")
  exact fun description bodies hbodies => hbodies

/-- A response is read from a value whose key shows its code. -/
theorem source_of_response {d : Datum} {responses : Entries Response}
    (h : Response.readAll mediaType d = .accepted responses) {code : String} {r : Response}
    (hr : (code, r) ∈ responses) :
    ∃ es k v, d = .map es ∧ (k, v) ∈ es ∧ k.plainText = some code ∧
      Response.read mediaType (orEmpty v) = .accepted r := by
  cases d with
  | map es =>
    have read : (keyedByText orEmpty es).andThen (entries (Response.read mediaType)) =
        .accepted responses := h
    rw [keyedByText_eq] at read
    by_cases texts : (es.all fun p => hasText p.1) = true
    case neg =>
      rw [if_neg texts] at read
      cases read
    rw [if_pos texts] at read
    obtain ⟨k, v, hv, hkey, hread⟩ := source_of_entriesOf read hr
    obtain ⟨⟨name, v'⟩, put, same⟩ := List.mem_map.mp hv
    -- Keys that show the same code replace each other; the value left over is one of theirs.
    obtain ⟨⟨k', w⟩, hw, pair⟩ := List.mem_map.mp (Entries.mem_ofList put)
    cases same
    cases pair
    cases hkey
    exact ⟨es, k', w, rfl, hw, plainText_of_hasText (List.all_eq_true.mp texts _ hw), hread⟩
  | scalar s =>
    cases s with
    | null => cases h; cases hr
    | bool | int | float | text | bytes | date | clock | moment | pair => cases h
  | list items => cases h
  | pair a b => cases h
  | set members => cases h

theorem Action.ensures_sources (mediaType d : Datum) :
    Ensures (Action.read mediaType d) fun a =>
      Body.readAll mediaType (valueUnder "body" d) = .accepted a.bodies ∧
      Response.readAll mediaType (valueUnder "responses" d) = .accepted a.responses := by
  refine .andThen fun es hes => ?_
  rw [valueUnder_of_fields hes, valueUnder_of_fields hes]
  refine .seq ?_ (ensures_field (Response.readAll_null mediaType) es "responses")
  refine .seq ?_ (ensures_field (Body.readAll_null mediaType) es "body")
  refine .seq ?_ (.any _)
  refine .seq ?_ (.any _)
  refine .map (.of_forall ?_)
  intro description headers _ queries _ bodies hbodies responses hresponses
  exact ⟨hbodies, hresponses⟩

/-- The bodies of a method and those of its responses stand under the names that the value of the
method gives them. -/
structure BodiesNamed (m : String) (d : Datum) (action : Action) : Prop where
  bodies : action.bodies.names = bodyNames m (valueUnder "body" d)
  responses : ∀ code r, (code, r) ∈ action.responses → ∃ es k v,
    valueUnder "responses" d = .map es ∧ (k, v) ∈ es ∧ k.plainText = some code ∧
      r.bodies.names = bodyNames m (valueUnder "body" v)

theorem valueUnder_orEmpty (name : String) (d : Datum) :
    valueUnder name (orEmpty d) = valueUnder name d := by
  cases d with
  | scalar s => cases s <;> rfl
  | list | pair | set | map => rfl

theorem bodiesNamed_of_read (known : bodyKey mediaType = .accepted (.text m)) (d : Datum) :
    Ensures (Action.read mediaType d) fun action => BodiesNamed m d action := by
  intro action h
  obtain ⟨hbodies, hresponses⟩ := Action.ensures_sources mediaType d action h
  refine ⟨Body.ensures_names known _ _ hbodies, fun code r hr => ?_⟩
  obtain ⟨es, k, v, hes, hv, hcode, hread⟩ := source_of_response hresponses hr
  have bodies := Response.ensures_bodies mediaType _ r hread
  rw [valueUnder_orEmpty] at bodies
  exact ⟨es, k, v, hes, hv, hcode, Body.ensures_names known _ _ bodies⟩

end RamlBridge.Raml

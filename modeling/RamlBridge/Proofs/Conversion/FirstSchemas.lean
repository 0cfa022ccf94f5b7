import RamlBridge.Proofs.Conversion.Convertible
import RamlBridge.Proofs.Conversion.DocumentText
import RamlBridge.Proofs.Conversion.UpToBodies
import RamlBridge.Proofs.Raml.Root

/-!
The schemas that a conversion reads: every declared one, and of the bodies of a request or of a
response the first. A text behind the first one is passed over, whatever it is.
-/
namespace RamlBridge.Conversion

open Raml (Body ForestUpTo)

/-- Bodies of the same media types with one first schema. -/
structure SameFirstSchema (bodies bodies' : Entries Body) : Prop where
  mediaTypes : bodies.names = bodies'.names
  first : ∀ text, IsFirstSchema bodies text ↔ IsFirstSchema bodies' text

theorem SameFirstSchema.firstSchema_eq {bodies bodies' : Entries Body}
    (h : SameFirstSchema bodies bodies') :
    Registry.firstSchema bodies = Registry.firstSchema bodies' := by
  apply Option.ext
  intro text
  rw [firstSchema_eq_some_iff, firstSchema_eq_some_iff]
  exact h.first text

theorem showsSame_of_first (registry : Registry) : ShowsSame registry registry SameFirstSchema := by
  refine ⟨SameFirstSchema.mediaTypes, ?_⟩
  intro bodies bodies' h
  rw [Registry.resolveFirst, Registry.resolveFirst, h.firstSchema_eq]

/-- Resources that differ in schemas behind first ones alone are converted alike, with the same
warnings. -/
theorem convert_eq_of_first {root : Raml.Root} {resources : Entries Raml.Resource}
    (h : ForestUpTo SameFirstSchema root.resources resources) (indent : Option Int) :
    convert { root with resources := resources } indent = convert root indent := by
  have paths (registry : Registry) := (showsSame_of_first registry).mapPaths_eq h
  have assembled : assemble { root with resources := resources } = assemble root := by
    simp only [assemble, paths]
    rfl
  rw [convert, convert, document, document, assembled]

theorem offences_of_convert {root : Raml.Root} {indent : Option Int} {text : String}
    (converted : (convert root indent).outcome = .ok text) : offences root = [] := by
  obtain ⟨swagger, _, made, _⟩ := convert_eq_ok converted
  have blames := blames_document root
  rw [made] at blames
  exact blames.eq_nil

/-- If a text comes out, every declared schema is an object, and so is the first schema of every
request and response, unless it is a declared name. The schemas behind the first ones have no part
in it. -/
theorem firstSchemas_convert {root : Raml.Root} {indent : Option Int} {text : String}
    (converted : (convert root indent).outcome = .ok text) :
    (∀ p ∈ root.schemas.flatten, ∃ members, Json.parse p.2 = .ok (.object members)) ∧
    (∀ keys r, Raml.Leads root.resources keys r → ∀ a ∈ r.actions,
      Usable (Entries.names root.schemas.flatten) a.2.bodies ∧
      ∀ q ∈ a.2.responses, Usable (Entries.names root.schemas.flatten) q.2.bodies) ∧
    ∀ resources, ForestUpTo SameFirstSchema root.resources resources →
      convert { root with resources := resources } indent = convert root indent := by
  obtain ⟨declared, used, _⟩ := offences_eq_nil_iff.mp (offences_of_convert converted)
  exact ⟨declared, used, fun resources upTo => convert_eq_of_first upTo indent⟩

/-- The bodies of a request whose first schema is an object, with a text behind it. -/
def followedBodies (later : String) : Entries Body :=
  [("application/json", ⟨some "\x7b\x7d", .null⟩), ("text/xml", ⟨some later, .null⟩)]

def followedResource (later : String) : Raml.Resource :=
  ⟨none, none, [], [("post", ⟨none, [], [], followedBodies later, []⟩)], []⟩

def followedRoot (later : String) : Raml.Root :=
  ⟨"", none, none, [], none, [], [], [], [], [("/p", followedResource later)]⟩

theorem isFirstSchema_followedBodies {later text : String} :
    IsFirstSchema (followedBodies later) text ↔ text = "\x7b\x7d" := by
  have first : Registry.firstSchema (followedBodies later) = some "\x7b\x7d" := rfl
  rw [← firstSchema_eq_some_iff, first, Option.some.injEq, eq_comm]

theorem forestUpTo_followedRoot (later other : String) :
    ForestUpTo SameFirstSchema (followedRoot later).resources (followedRoot other).resources := by
  have bodies : SameFirstSchema (followedBodies later) (followedBodies other) :=
    ⟨rfl, fun text => isFirstSchema_followedBodies.trans isFirstSchema_followedBodies.symm⟩
  exact .cons (.cons ⟨rfl, rfl, rfl, rfl, bodies, .nil⟩ .nil) .nil .nil

theorem convert_followedRoot (later : String) :
    ∃ text, (convert (followedRoot later) none).outcome = .ok text := by
  have alike : convert (followedRoot later) none = convert (followedRoot "") none :=
    convert_eq_of_first (forestUpTo_followedRoot "" later) none
  have converted : (convert (followedRoot "") none).outcome.isOk = true := by decide +kernel
  rw [alike]
  cases made : (convert (followedRoot "") none).outcome with
  | ok text => exact ⟨text, rfl⟩
  | error s =>
    rw [made] at converted
    cases converted

theorem leads_followedRoot (later : String) :
    Raml.Leads (followedRoot later).resources ["/p"] (followedResource later) :=
  .here List.mem_cons_self

/-- The first schema is an object, and what stands behind it makes no difference. -/
theorem firstSchemas_convert_followed :
    ∃ text, (convert (followedRoot "") none).outcome = .ok text ∧
      Usable [] (followedBodies "") ∧
      convert (followedRoot "<xsd") none = convert (followedRoot "") none := by
  obtain ⟨text, converted⟩ := convert_followedRoot ""
  obtain ⟨_, used, alike⟩ := firstSchemas_convert converted
  have usable := (used _ _ (leads_followedRoot "") _ List.mem_cons_self).1
  exact ⟨text, converted, usable, alike _ (forestUpTo_followedRoot "" "<xsd")⟩

def followedEntries : List (Scalar × Datum) :=
  [(.text "post", .map [(.text "body", .map [
    (.text "application/json", .map [(.text "schema", .text "\x7b\x7d")]),
    (.text "text/xml", .map [(.text "schema", .text "<xsd")])])])]

/-- A request with a schema that is neither a name nor an object, behind one that is. -/
def followedDescription : Datum :=
  .map [(.text "/p", .map followedEntries)]

theorem read_followedDescription :
    Raml.Root.read followedDescription = .accepted (followedRoot "<xsd") := by
  have inner : Raml.Resource.read .null (.map followedEntries) =
      .accepted (followedResource "<xsd") :=
    (Raml.Resource.ofEntries_eq .null followedEntries).trans rfl
  have resources : Raml.topResources [(.text "/p", .map followedEntries)] =
    .accepted [(.text "/p", .map followedEntries)] := rfl
  change Raml.Root.ofEntries .null _ = _
  simp only [Raml.Root.ofEntries, resources, Checked.andThen, List.map_cons, List.map_nil, inner]
  rfl

/-- The description is converted all the same. -/
theorem firstSchemas_passedOver :
    ∃ text a, Raml.Root.read followedDescription = .accepted (followedRoot "<xsd") ∧
      (convert (followedRoot "<xsd") none).outcome = .ok text ∧
      Raml.Leads (followedRoot "<xsd").resources ["/p"] (followedResource "<xsd") ∧
      ("post", a) ∈ (followedResource "<xsd").actions ∧
      ("text/xml", ⟨some "<xsd", .null⟩) ∈ a.bodies ∧
      "<xsd" ∉ Entries.names (followedRoot "<xsd").schemas.flatten ∧
      ¬ ∃ members, Json.parse "<xsd" = .ok (.object members) := by
  obtain ⟨text, converted⟩ := convert_followedRoot "<xsd"
  refine ⟨text, _, read_followedDescription, converted, leads_followedRoot "<xsd",
    List.mem_cons_self, ?_, ?_, ?_⟩
  · exact List.mem_cons_of_mem _ List.mem_cons_self
  · exact List.not_mem_nil
  · rintro ⟨members, parsed⟩
    cases parsed

end RamlBridge.Conversion

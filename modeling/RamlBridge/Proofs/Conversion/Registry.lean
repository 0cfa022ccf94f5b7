import RamlBridge.Conversion.Registry
import RamlBridge.Proofs.Conversion.Report

/-!
The registry after all declarations: every name with the last text that was declared under it. A
schema in use is a reference to one of these names, or the object of its own text.
-/
namespace RamlBridge.Conversion

theorem parseSchema_eq_ok {text : String} {members : Entries Json} :
    parseSchema text = .ok members ↔ Json.parse text = .ok (.object members) := by
  unfold parseSchema
  constructor
  · intro h
    split at h
    · next parsed =>
      cases h
      exact parsed
    · cases h
    · split at h <;> cases h
  · intro h
    rw [h]

namespace Registry

theorem outcome_register (registry : Registry) (name text : String) :
    (registry.register name text).outcome =
      (parseSchema text).map fun members =>
        ⟨registry.definitions.put name (definitionOf members)⟩ := by
  unfold register
  cases parseSchema text <;> rfl

/-- Declaring schemas in turn sets the definition of every text, up to the first that gives none. -/
theorem outcome_registerEach (registry : Registry) (pairs : List (String × String)) :
    (registry.registerEach pairs).outcome =
      (pairs.mapM fun p => ((parseSchema p.2).map definitionOf).map (p.1, ·)).map
        fun definitions => ⟨registry.definitions.putAll definitions⟩ := by
  induction pairs generalizing registry with
  | nil => rfl
  | cons p rest ih =>
    obtain ⟨name, text⟩ := p
    rw [mapM_cons_eq]
    simp only [registerEach, Report.outcome_bind, outcome_register, ih]
    cases parseSchema text with
    | error s => rfl
    | ok members =>
      simp only [map_ok, ok_bind]
      cases rest.mapM fun p => ((parseSchema p.2).map definitionOf).map (p.1, ·) <;> rfl

section Declared

variable {schemas : List (Entries String)} {registry : Registry}

theorem definitions_of_registerAll
    (h : (Registry.empty.registerAll schemas).outcome = .ok registry) :
    ∃ definitions, (schemas.flatten.mapM fun p =>
        ((parseSchema p.2).map definitionOf).map (p.1, ·)) = .ok definitions ∧
      registry.definitions = Entries.ofList definitions := by
  rw [registerAll, outcome_registerEach] at h
  obtain ⟨definitions, hdefinitions, rfl⟩ := map_eq_ok h
  exact ⟨definitions, hdefinitions, rfl⟩

/-- The names of the definitions are the declared names, in order. -/
theorem names_registerAll (h : (Registry.empty.registerAll schemas).outcome = .ok registry) :
    registry.definitions.names = firstOccurrences (Entries.names schemas.flatten) := by
  obtain ⟨definitions, hdefinitions, same⟩ := definitions_of_registerAll h
  rw [same, Entries.names_ofList, names_of_mapM hdefinitions]
  rfl

/-- A definition is that of the last text under its name. -/
theorem find?_registerAll (h : (Registry.empty.registerAll schemas).outcome = .ok registry)
    {name : String} {definition : Entries Json}
    (found : registry.definitions.find? name = some definition) :
    ∃ text members, Entries.last? schemas.flatten name = some text ∧
      Json.parse text = .ok (.object members) ∧ definition = definitionOf members := by
  obtain ⟨definitions, hdefinitions, same⟩ := definitions_of_registerAll h
  rw [same] at found
  obtain ⟨p, last, made⟩ := source_of_find? hdefinitions found
  obtain ⟨members, hmembers, rfl⟩ := map_eq_ok made
  rw [Entries.last?_map Prod.mk] at last
  obtain ⟨text, htext, rfl⟩ := Option.map_eq_some_iff.mp last
  exact ⟨text, members, htext, parseSchema_eq_ok.mp hmembers, rfl⟩

/-- A name is known if and only if it is declared. -/
theorem contains_registerAll (h : (Registry.empty.registerAll schemas).outcome = .ok registry)
    (name : String) :
    registry.contains name = true ↔ name ∈ Entries.names schemas.flatten := by
  rw [contains, Entries.contains_iff, names_registerAll h, mem_firstOccurrences]

end Declared

end Registry

/-- A text is the first schema among bodies: those before it declare none, or an empty one. -/
def IsFirstSchema (bodies : Entries Raml.Body) (text : String) : Prop :=
  ∃ before mediaType body after, bodies = before ++ (mediaType, body) :: after ∧
    body.schema = some text ∧ text ≠ "" ∧ ∀ p ∈ before, p.2.schema = none ∨ p.2.schema = some ""

/-- No schema is declared among bodies but empty ones. -/
def HasNoSchema (bodies : Entries Raml.Body) : Prop :=
  ∀ p ∈ bodies, p.2.schema = none ∨ p.2.schema = some ""

theorem filter_given_eq_none {schema : Option String} :
    schema.filter (fun s => decide (s ≠ "")) = none ↔ schema = none ∨ schema = some "" := by
  cases schema with
  | none => exact ⟨fun _ => Or.inl rfl, fun _ => rfl⟩
  | some text =>
    simp only [Option.filter_eq_none_iff, Option.some.injEq, decide_eq_true_iff, ne_eq,
      Classical.not_not, forall_eq', reduceCtorEq, false_or]

theorem firstSchema_eq_some_iff {bodies : Entries Raml.Body} {text : String} :
    Registry.firstSchema bodies = some text ↔ IsFirstSchema bodies text := by
  rw [Registry.firstSchema, List.findSome?_eq_some_iff]
  constructor
  · rintro ⟨before, ⟨mediaType, body⟩, after, split, found, none⟩
    obtain ⟨declared, given⟩ := Option.filter_eq_some_iff.mp found
    exact ⟨before, mediaType, body, after, split, declared, of_decide_eq_true given,
      fun p hp => filter_given_eq_none.mp (none p hp)⟩
  · rintro ⟨before, mediaType, body, after, split, declared, given, none⟩
    exact ⟨before, (mediaType, body), after, split,
      Option.filter_eq_some_iff.mpr ⟨declared, decide_eq_true given⟩,
      fun p hp => filter_given_eq_none.mpr (none p hp)⟩

theorem firstSchema_eq_none_iff {bodies : Entries Raml.Body} :
    Registry.firstSchema bodies = none ↔ HasNoSchema bodies := by
  simp only [Registry.firstSchema, List.findSome?_eq_none_iff, filter_given_eq_none, HasNoSchema]

/-- The schema that bodies come to once the declared names are known: that of the first of them
that names or holds one. -/
inductive Emits (declared : List String) (bodies : Entries Raml.Body) :
    Option (Entries Json) → Prop
  | absent : HasNoSchema bodies → Emits declared bodies none
  | reference {text} : IsFirstSchema bodies text → text ∈ declared →
      Emits declared bodies (some [("$ref", .text ("#/definitions/" ++ text))])
  | inline {text members} : IsFirstSchema bodies text → text ∉ declared →
      Json.parse text = .ok (.object members) →
      Emits declared bodies (some (members.filter fun p => p.1 ≠ "$schema" ∧ p.1 ≠ "required"))

theorem withoutTopKeys_eq (members : Entries Json) :
    withoutTopKeys members = members.filter fun p => p.1 ≠ "$schema" ∧ p.1 ≠ "required" := by
  simp only [withoutTopKeys, Entries.erase, List.filter_filter, ne_eq, decide_not,
    Bool.decide_and, Bool.and_comm]

theorem emits_of_resolveFirst {schemas : List (Entries String)} {registry : Registry}
    (known : (Registry.empty.registerAll schemas).outcome = .ok registry)
    {bodies : Entries Raml.Body} {schema : Option (Entries Json)}
    (h : registry.resolveFirst bodies = .ok schema) :
    Emits (Entries.names schemas.flatten) bodies schema := by
  unfold Registry.resolveFirst at h
  cases first : Registry.firstSchema bodies with
  | none =>
    rw [first] at h
    cases h
    exact .absent (firstSchema_eq_none_iff.mp first)
  | some text =>
    rw [first] at h
    obtain ⟨members, hmembers, rfl⟩ := map_eq_ok h
    by_cases declared : registry.contains text = true
    · rw [Registry.resolve, if_pos declared] at hmembers
      cases hmembers
      exact .reference (firstSchema_eq_some_iff.mp first)
        ((Registry.contains_registerAll known text).mp declared)
    · rw [Registry.resolve, if_neg declared] at hmembers
      obtain ⟨parsed, hparsed, rfl⟩ := map_eq_ok hmembers
      rw [withoutTopKeys_eq]
      exact .inline (firstSchema_eq_some_iff.mp first) (fun hmem =>
        declared ((Registry.contains_registerAll known text).mpr hmem))
        (parseSchema_eq_ok.mp hparsed)

end RamlBridge.Conversion

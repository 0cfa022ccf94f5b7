import RamlBridge.Proofs.Conversion.Registry
import RamlBridge.Proofs.Conversion.SchemaPositions
import RamlBridge.Proofs.Json.Parsed

/-!
A registry over a run of calls, whatever they are and however many of them fail: the names that it
holds, and what every definition has of the text that it comes from.
-/
namespace RamlBridge.Conversion

section Definition

def propertiesOf (body : Entries Json) : Entries Json :=
  match body.find? "properties" with
  | some (.object properties) => properties
  | _ => []

def IsRequired (property : Json) : Prop :=
  ∃ members, property = .object members ∧
    (Entries.find? members "required" = some (.bool true) ∨
      Entries.find? members "required" = some (.text "true"))

/-- What a definition is made of the object that its text denotes. -/
structure Defines (body definition : Entries Json) : Prop where
  unlabelled : "$schema" ∉ definition.names
  lists_iff : "required" ∈ definition.names ↔ ∃ p ∈ propertiesOf body, IsRequired p.2
  lists : ∀ v, ("required", v) ∈ definition → ∃ names : List String, v = .array (names.map .text) ∧
    names.Sublist (propertiesOf body).names ∧ names.Nodup ∧
    (∀ name, name ∈ names ↔ ∃ x, (name, x) ∈ propertiesOf body ∧ IsRequired x) ∧
    ∀ name ∈ names, ∃ properties, definition.find? "properties" = some (.object properties) ∧
      name ∈ Entries.names properties
  unmarked : IsUnmarked (.object (definition.erase "required"))

theorem isFlagged_iff (property : Json) : isFlagged property = true ↔ IsRequired property := by
  cases property with
  | object members =>
    simp only [isFlagged, Json.member?, IsRequired, Json.object.injEq, exists_eq_left']
    cases Entries.find? members "required" with
    | none => simp
    | some v => cases v <;> simp
  | _ => simp [isFlagged, Json.member?, IsRequired]

theorem find?_of_mem_propertiesOf {body : Entries Json} {p : String × Json}
    (h : p ∈ propertiesOf body) :
    body.find? "properties" = some (.object (propertiesOf body)) := by
  unfold propertiesOf at h ⊢
  split at h
  · next properties found => rw [found]
  · cases h

theorem nodup_propertiesOf {text : String} {body : Entries Json}
    (parsed : Json.parse text = .ok (.object body)) : (propertiesOf body).names.Nodup := by
  have distinct :=
    (Json.everywhere_object.mp (Json.distinct_of_regular (Json.regular_parse parsed))).2
  unfold propertiesOf
  split
  · next properties found =>
    exact (Json.everywhere_object.mp (distinct _ (Entries.mem_of_find? found))).1
  · exact List.nodup_nil

/-- The names of the properties of a schema that say of themselves that they are required. -/
def requiredNames (body : Entries Json) : List String :=
  Entries.names ((propertiesOf body).filter fun p => isFlagged p.2)

theorem flaggedProperties_eq (body : Entries Json) :
    flaggedProperties ((body.find? "properties").getD .null) = requiredNames body := by
  unfold requiredNames propertiesOf
  cases body.find? "properties" with
  | none => rfl
  | some v => cases v <;> rfl

theorem mem_requiredNames {body : Entries Json} {name : String} :
    name ∈ requiredNames body ↔ ∃ x, (name, x) ∈ propertiesOf body ∧ IsRequired x := by
  simp [requiredNames, Entries.names, isFlagged_iff]

theorem requiredNames_ne_nil {body : Entries Json} :
    requiredNames body ≠ [] ↔ ∃ p ∈ propertiesOf body, IsRequired p.2 := by
  simp [requiredNames, Entries.names, isFlagged_iff]

theorem definitionOf_eq (body : Entries Json) :
    definitionOf body = stripMembers (withoutTopKeys body) ++
      if requiredNames body = [] then []
      else [("required", .array ((requiredNames body).map .text))] := by
  simp only [definitionOf, flaggedProperties_eq]

theorem names_definitionOf (body : Entries Json) :
    (definitionOf body).names = Entries.names (stripMembers (withoutTopKeys body)) ++
      if requiredNames body = [] then [] else ["required"] := by
  rw [definitionOf_eq, Entries.names, List.map_append, Entries.names]
  split <;> rfl

theorem erase_definitionOf (body : Entries Json) :
    (definitionOf body).erase "required" = stripMembers (withoutTopKeys body) := by
  have kept := Entries.erase_of_not_mem (unmarked_stripMembers (withoutTopKeys body))
  rw [Entries.erase] at kept
  rw [definitionOf_eq, Entries.erase, List.filter_append, kept]
  split <;> simp

theorem not_mem_schema_stripMembers (body : Entries Json) :
    "$schema" ∉ Entries.names (stripMembers (withoutTopKeys body)) := by
  rw [names_stripMembers, withoutTopKeys]
  intro h
  have early : "$schema" ∈ (body.erase "$schema").names :=
    ((List.filter_sublist.trans List.filter_sublist).map Prod.fst).subset h
  exact Entries.not_mem_names_erase body "$schema" early

theorem find?_properties_definitionOf {body properties : Entries Json}
    (h : body.find? "properties" = some (.object properties)) :
    (definitionOf body).find? "properties" =
      some (.object (properties.mapValues stripRequired)) := by
  have kept : (withoutTopKeys body).find? "properties" = some (.object properties) := by
    rw [withoutTopKeys, Entries.find?_erase_of_ne (by decide),
      Entries.find?_erase_of_ne (by decide), h]
  rw [definitionOf_eq, Entries.find?_append, stripMembers_eq, Entries.find?_map,
    Entries.find?_erase_of_ne (by decide), kept, Option.map_some, Option.some_or, stripUnder,
    if_pos (by decide), stripNamed, stripEach_eq]

theorem defines_definitionOf {text : String} {body : Entries Json}
    (parsed : Json.parse text = .ok (.object body)) : Defines body (definitionOf body) := by
  constructor
  case unlabelled =>
    rw [names_definitionOf, List.mem_append, not_or]
    refine ⟨not_mem_schema_stripMembers body, ?_⟩
    split <;> simp
  case lists_iff =>
    rw [← requiredNames_ne_nil, names_definitionOf, List.mem_append,
      or_iff_right (unmarked_stripMembers (withoutTopKeys body))]
    split
    · next none => simp [none]
    · next some => simp [some]
  case lists =>
    intro v hv
    rw [definitionOf_eq] at hv
    rcases List.mem_append.mp hv with kept | added
    · exact absurd (List.mem_map_of_mem kept) (unmarked_stripMembers (withoutTopKeys body))
    · split at added
      · cases added
      · cases List.mem_singleton.mp added
        refine ⟨requiredNames body, rfl, ?_, ?_, fun name => mem_requiredNames, ?_⟩
        · exact List.filter_sublist.map Prod.fst
        · exact (List.filter_sublist.map Prod.fst).nodup (nodup_propertiesOf parsed)
        · intro name hname
          obtain ⟨x, hx, _⟩ := mem_requiredNames.mp hname
          refine ⟨_, find?_properties_definitionOf (find?_of_mem_propertiesOf hx), ?_⟩
          rw [Entries.names_mapValues]
          exact List.mem_map_of_mem hx
  case unmarked =>
    rw [erase_definitionOf]
    exact isUnmarked_stripRequired (.object (withoutTopKeys body))

end Definition

inductive Call where
  | register (name text : String)
  | resolve (text : String)

namespace Registry

/-- The answer to a call and the registry after it. A declaration is answered by its definition,
and one that fails leaves the registry as it is. -/
def answer (registry : Registry) : Call → Except Stop (Entries Json) × Registry
  | .register name text =>
    match (registry.register name text).outcome with
    | .ok next => (.ok ((next.definitions.find? name).getD []), next)
    | .error s => (.error s, registry)
  | .resolve text => (registry.resolve text, registry)

def run (calls : List Call) : Registry :=
  calls.foldl (fun registry call => (registry.answer call).2) empty

/-- The declaration that a call makes, with its text, if the call succeeds and is one. -/
def declaration? (registry : Registry) (call : Call) : Option (String × String) :=
  match call, (registry.answer call).1 with
  | .register name text, .ok _ => some (name, text)
  | _, _ => none

/-- The declarations that succeed in a run of calls on a registry, in order. -/
def declarationsFrom (registry : Registry) : List Call → Entries String
  | [] => []
  | call :: rest =>
    (registry.declaration? call).toList ++ declarationsFrom (registry.answer call).2 rest

/-- A call either declares a schema whose text denotes an object, or changes nothing. -/
theorem answer_cases (registry : Registry) (call : Call) :
    (∃ name text body, call = .register name text ∧ Json.parse text = .ok (.object body) ∧
      registry.declaration? call = some (name, text) ∧
      (registry.answer call).2 = ⟨registry.definitions.put name (definitionOf body)⟩) ∨
    (registry.declaration? call = none ∧ (registry.answer call).2 = registry) := by
  cases call with
  | resolve text => exact Or.inr ⟨rfl, rfl⟩
  | register name text =>
    have outcome := outcome_register registry name text
    cases parsed : parseSchema text with
    | error s =>
      rw [parsed, map_error] at outcome
      right
      simp only [declaration?, answer, outcome, and_self]
    | ok body =>
      rw [parsed, map_ok] at outcome
      left
      refine ⟨name, text, body, rfl, parseSchema_eq_ok.mp parsed, ?_⟩
      simp only [declaration?, answer, outcome, and_self]

/-- A registry holds what was declared: every name where it was first declared, with the
definition that its last text gives. -/
structure Reflects (registry : Registry) (declared : Entries String) : Prop where
  names : registry.definitions.names = firstOccurrences declared.names
  source : ∀ name definition, (name, definition) ∈ registry.definitions →
    ∃ text body, declared.last? name = some text ∧ Json.parse text = .ok (.object body) ∧
      definition = definitionOf body

theorem reflects_empty : empty.Reflects [] := by
  constructor
  · rfl
  · intro name definition h
    cases h

variable {registry : Registry} {declared : Entries String}

theorem Reflects.declare (h : registry.Reflects declared) {name text : String}
    {body : Entries Json} (parsed : Json.parse text = .ok (.object body)) :
    Reflects ⟨registry.definitions.put name (definitionOf body)⟩ (declared ++ [(name, text)]) := by
  constructor
  · rw [Entries.names_put, h.names, Entries.names_append, firstOccurrences_eq_foldl,
      firstOccurrences_eq_foldl, List.foldl_append]
    rfl
  · intro other definition hmem
    have distinct : (registry.definitions.put name (definitionOf body)).names.Nodup := by
      rw [Entries.names_put, h.names]
      exact nodup_addNew (nodup_firstOccurrences _) name
    have found := Entries.find?_of_mem distinct hmem
    rw [Entries.find?_put] at found
    rw [Entries.last?_append, Entries.last?_singleton]
    by_cases same : name = other
    · rw [if_pos same] at found ⊢
      cases found
      exact ⟨text, body, rfl, parsed, rfl⟩
    · rw [if_neg same] at found ⊢
      exact h.source other definition (Entries.mem_of_find? found)

theorem Reflects.answer (h : registry.Reflects declared) (call : Call) :
    (registry.answer call).2.Reflects (declared ++ (registry.declaration? call).toList) := by
  rcases registry.answer_cases call with ⟨name, text, body, _, parsed, makes, next⟩ | ⟨makes, next⟩
  · rw [next, makes]
    exact h.declare parsed
  · rw [next, makes]
    simpa using h

theorem Reflects.foldl (h : registry.Reflects declared) (calls : List Call) :
    (calls.foldl (fun registry call => (registry.answer call).2) registry).Reflects
      (declared ++ registry.declarationsFrom calls) := by
  induction calls generalizing registry declared with
  | nil => simpa [declarationsFrom] using h
  | cons call rest ih =>
    rw [List.foldl_cons, declarationsFrom, ← List.append_assoc]
    exact ih (h.answer call)

theorem run_append_singleton (calls : List Call) (call : Call) :
    run (calls ++ [call]) = ((run calls).answer call).2 := by
  rw [run, List.foldl_append]
  rfl

/-- After any run of calls, a registry holds the names that were declared with success, in the
order of their first success, and every definition is made of the last text under its name. A
call that resolves a schema, or that fails, changes nothing. -/
theorem run_declares (calls : List Call) :
    (run calls).definitions.names = firstOccurrences (empty.declarationsFrom calls).names ∧
    (∀ text, run (calls ++ [.resolve text]) = run calls) ∧
    (∀ call s, ((run calls).answer call).1 = .error s → run (calls ++ [call]) = run calls) ∧
    ∀ name definition, (name, definition) ∈ (run calls).definitions →
      ∃ text body, (empty.declarationsFrom calls).last? name = some text ∧
        Json.parse text = .ok (.object body) ∧ Defines body definition := by
  have reflects := reflects_empty.foldl calls
  rw [List.nil_append] at reflects
  refine ⟨reflects.names, ?_, ?_, ?_⟩
  · intro text
    exact run_append_singleton calls (.resolve text)
  · intro call s fails
    rw [run_append_singleton]
    rcases (run calls).answer_cases call with ⟨name, text, body, rfl, _, makes, _⟩ | ⟨_, next⟩
    · simp [declaration?, fails] at makes
    · exact next
  · intro name definition hmem
    obtain ⟨text, body, last, parsed, rfl⟩ := reflects.source name definition hmem
    exact ⟨text, body, last, parsed, defines_definitionOf parsed⟩

example : (run [.register "Pet" "\x7b\"properties\": \x7b\"a\": \x7b\"required\": true\x7d\x7d\x7d",
    .register "Pet" "[", .resolve "Pet"]).definitions =
      [("Pet", [("properties", .object [("a", .object [])]),
        ("required", .array [.text "a"])])] := by
  cbv

end Registry

end RamlBridge.Conversion

import Mathlib.Data.List.Induction
import Mathlib.Data.List.Nodup
import RamlBridge.Proofs.Conversion.RegistryRuns
import RamlBridge.Proofs.Json.Equality

/-!
The warnings about schemas that are declared more than once. Each declaration is compared with the
one before it under its name only; as equality by value is an equivalence, there is no warning
just if all declarations of every name are equal.
-/
namespace RamlBridge.Conversion

section Regular

theorem regular_withoutTopKeys {body : Entries Json} (h : (Json.object body).Regular) :
    (Json.object (withoutTopKeys body)).Regular := by
  obtain ⟨distinct, inside⟩ := Json.regular_object.mp h
  rw [withoutTopKeys_eq]
  exact Json.regular_object.mpr ⟨(List.filter_sublist.map Prod.fst).nodup distinct,
    fun m hm => inside m (List.mem_filter.mp hm).1⟩

theorem regular_stripMembers {members : Entries Json} (h : (Json.object members).Regular) :
    (Json.object (stripMembers members)).Regular := by
  refine (everywhere_strip (fun _ => trivial) ?_ h).1
  intro ms ns fewer distinct
  exact fewer.nodup distinct

/-- The definition of what a text denotes has no name twice, and its numbers are as they are
read. -/
theorem regular_definitionOf {text : String} {body : Entries Json}
    (parsed : Json.parse text = .ok (.object body)) :
    (Json.object (definitionOf body)).Regular := by
  have stripped := regular_stripMembers (regular_withoutTopKeys (Json.regular_parse parsed))
  obtain ⟨distinct, inside⟩ := Json.regular_object.mp stripped
  refine Json.regular_object.mpr ⟨?_, ?_⟩
  · rw [names_definitionOf]
    split
    · rwa [List.append_nil]
    · exact List.Nodup.append distinct (List.nodup_singleton _)
        (List.disjoint_singleton.mpr (unmarked_stripMembers _))
  · intro m hm
    rcases mem_definitionOf hm with kept | ⟨names, rfl⟩
    · exact inside m kept
    · refine Json.regular_array.mpr fun x hx => ?_
      obtain ⟨name, _, rfl⟩ := List.mem_map.mp hx
      trivial

end Regular

/-- A declaration gives its name the definition that is made of its text. -/
def Gives (declaration : String × String) (definition : String × Entries Json) : Prop :=
  definition.1 = declaration.1 ∧
    ∃ body, Json.parse declaration.2 = .ok (.object body) ∧ definition.2 = definitionOf body

/-- Whether a definition says something else than an earlier one, if there is one. -/
def differs (earlier : Option (Entries Json)) (definition : Entries Json) : Bool :=
  earlier.any fun previous => !(Json.object previous).same (.object definition)

/-- Whether the definition at a position differs from the one before it under its name. -/
def redeclares (definitions : Entries (Entries Json)) (p : (String × Entries Json) × Nat) : Bool :=
  differs (Entries.last? (definitions.take p.2) p.1.1) p.1.2

/-- The names of the definitions that differ from those before them, in order. -/
def redeclared (definitions : Entries (Entries Json)) : List String :=
  (definitions.zipIdx.filter (redeclares definitions)).map fun p => p.1.1

/-- All definitions of a name are equal by value. -/
def IsConsistent (definitions : Entries (Entries Json)) : Prop :=
  ∀ name first second, (name, first) ∈ definitions → (name, second) ∈ definitions →
    (Json.object first).same (.object second) = true

section Redeclared

variable {definitions : Entries (Entries Json)}

theorem redeclared_append_singleton (definitions : Entries (Entries Json)) (name : String)
    (definition : Entries Json) :
    redeclared (definitions ++ [(name, definition)]) = redeclared definitions ++
      if differs (definitions.last? name) definition then [name] else [] := by
  have before : ∀ p ∈ definitions.zipIdx,
      redeclares (definitions ++ [(name, definition)]) p = redeclares definitions p := by
    intro p hp
    have early : p.2 ≤ definitions.length := (List.snd_lt_of_mem_zipIdx hp).le
    simp only [redeclares, List.take_append_of_le_length early]
  have last : redeclares (definitions ++ [(name, definition)])
      ((name, definition), definitions.length) = differs (definitions.last? name) definition := by
    simp only [redeclares, List.take_left']
  rw [redeclared, List.zipIdx_append, List.filter_append, List.map_append,
    List.filter_congr before, ← redeclared]
  cases found : differs (definitions.last? name) definition with
  | true => simp [last, found]
  | false => simp [last, found]

theorem differs_eq_false_iff {name : String} {definition : Entries Json} :
    differs (definitions.last? name) definition = false ↔
      ∀ previous, definitions.last? name = some previous →
        (Json.object previous).same (.object definition) = true := by
  cases definitions.last? name <;> simp [differs]

/-- One more definition is equal to all of its name just if it is equal to the last of them. -/
theorem consistent_append_singleton {name : String} {definition : Entries Json}
    (regular : ∀ p ∈ definitions, (Json.object p.2).Regular)
    (here : (Json.object definition).Regular) :
    IsConsistent (definitions ++ [(name, definition)]) ↔
      IsConsistent definitions ∧ differs (definitions.last? name) definition = false := by
  rw [differs_eq_false_iff]
  constructor
  · intro equal
    refine ⟨fun other first second hfirst hsecond => equal other first second
      (List.mem_append_left _ hfirst) (List.mem_append_left _ hsecond), fun previous found => ?_⟩
    exact equal name previous definition
      (List.mem_append_left _ (Entries.mem_of_last? found)) (by simp)
  · rintro ⟨equal, last⟩
    -- the last one stands for all before it, by transitivity
    have toLast : ∀ first, (name, first) ∈ definitions →
        (Json.object first).same (.object definition) = true := by
      intro first hfirst
      cases found : definitions.last? name with
      | none => exact absurd (List.mem_map_of_mem hfirst) (Entries.last?_eq_none.mp found)
      | some previous =>
        have hprevious := Entries.mem_of_last? found
        exact Json.same_trans (regular _ hfirst) (regular _ hprevious) here
          (equal name first previous hfirst hprevious) (last previous found)
    intro other first second hfirst hsecond
    simp only [List.mem_append, List.mem_singleton] at hfirst hsecond
    rcases hfirst with old | new
    · rcases hsecond with old' | new'
      · exact equal other first second old old'
      · cases new'
        exact toLast first old
    · cases new
      rcases hsecond with old' | new'
      · exact Json.same_symm (regular _ old') here (toLast second old')
      · cases new'
        exact Json.same_refl here

theorem redeclared_eq_nil_iff (regular : ∀ p ∈ definitions, (Json.object p.2).Regular) :
    redeclared definitions = [] ↔ IsConsistent definitions := by
  induction definitions using List.reverseRecOn with
  | nil => simp [redeclared, IsConsistent]
  | append_singleton definitions p ih =>
    obtain ⟨name, definition⟩ := p
    have here : (Json.object definition).Regular := regular (name, definition) (by simp)
    have earlier : ∀ p ∈ definitions, (Json.object p.2).Regular := fun p hp =>
      regular p (List.mem_append_left _ hp)
    rw [redeclared_append_singleton, consistent_append_singleton earlier here,
      List.append_eq_nil_iff, ih earlier]
    simp

end Redeclared

namespace Registry

theorem conflicts_eq (registry : Registry) (name : String) (definition : Entries Json) :
    registry.conflicts name definition = differs (registry.definitions.find? name) definition := by
  unfold conflicts differs
  cases registry.definitions.find? name <;> rfl

theorem registerEach_append (registry : Registry) (first second : List (String × String)) :
    registry.registerEach (first ++ second) =
      registry.registerEach first >>= fun next => next.registerEach second := by
  induction first generalizing registry with
  | nil => rfl
  | cons p rest ih => simp only [List.cons_append, registerEach, ih, Report.bind_assoc]

/-- A declaration of an object succeeds, and warns if its definition differs from the one that the
name stands for. -/
theorem register_eq {text : String} {body : Entries Json}
    (parsed : Json.parse text = .ok (.object body)) (registry : Registry) (name : String) :
    registry.register name text = ⟨.ok ⟨registry.definitions.put name (definitionOf body)⟩,
      if differs (registry.definitions.find? name) (definitionOf body) then [.repeatedSchema name]
      else []⟩ := by
  rw [register, parseSchema_eq_ok.mpr parsed, ← conflicts_eq]

theorem registerEach_singleton (registry : Registry) (name text : String) :
    registry.registerEach [(name, text)] = registry.register name text :=
  Report.bind_ok _

/-- Declarations that all succeed warn of those whose definition differs from the one before it
under its name. -/
theorem warns_registerEach {pairs : List (String × String)} {registry : Registry}
    (h : (empty.registerEach pairs).outcome = .ok registry) :
    ∃ definitions, List.Forall₂ Gives pairs definitions ∧
      registry.definitions = Entries.ofList definitions ∧
      (empty.registerEach pairs).warnings = (redeclared definitions).map .repeatedSchema := by
  induction pairs using List.reverseRecOn generalizing registry with
  | nil =>
    cases h
    exact ⟨[], .nil, rfl, rfl⟩
  | append_singleton pairs p ih =>
    obtain ⟨name, text⟩ := p
    rw [registerEach_append, Report.outcome_bind] at h
    obtain ⟨before, first, h⟩ := bind_eq_ok h
    obtain ⟨definitions, gives, holds, warns⟩ := ih first
    rw [registerEach_singleton] at h
    rw [registerEach_append, Report.warnings_bind first, warns, registerEach_singleton]
    cases parsed : parseSchema text with
    | error s =>
      rw [register, parsed] at h
      cases h
    | ok body =>
      have made := parseSchema_eq_ok.mp parsed
      rw [register_eq made] at h ⊢
      cases h
      refine ⟨definitions ++ [(name, definitionOf body)], ?_, ?_, ?_⟩
      · exact List.rel_append gives (.cons ⟨rfl, body, made, rfl⟩ .nil)
      · rw [Entries.ofList_append, ← holds]
        rfl
      · rw [holds, Entries.find?_ofList, redeclared_append_singleton, List.map_append]
        split <;> rfl

theorem regular_of_gives {pairs : List (String × String)} {definitions : Entries (Entries Json)}
    (h : List.Forall₂ Gives pairs definitions) :
    ∀ p ∈ definitions, (Json.object p.2).Regular := by
  induction h with
  | nil => simp
  | cons given _ ih =>
    obtain ⟨_, body, parsed, made⟩ := given
    refine List.forall_mem_cons.mpr ⟨?_, ih⟩
    rw [made]
    exact regular_definitionOf parsed

theorem length_redeclared (definitions : Entries (Entries Json)) :
    (redeclared definitions).length = definitions.zipIdx.countP (redeclares definitions) := by
  rw [redeclared, List.length_map, List.countP_eq_length_filter]

/-- Declarations that succeed on a fresh registry warn of nothing just if all definitions of every
name are equal by value. There are as many warnings as definitions that differ from the one before
them under their name, and they tell the names of these, in order. -/
theorem registerAll_warns {schemas : List (Entries String)} {registry : Registry}
    (h : (empty.registerAll schemas).outcome = .ok registry) :
    ∃ definitions, List.Forall₂ Gives schemas.flatten definitions ∧
      ((empty.registerAll schemas).warnings = [] ↔ IsConsistent definitions) ∧
      (empty.registerAll schemas).warnings.length =
        definitions.zipIdx.countP (redeclares definitions) ∧
      (empty.registerAll schemas).warnings = (redeclared definitions).map .repeatedSchema := by
  obtain ⟨definitions, gives, _, warns⟩ := warns_registerEach h
  rw [← registerAll] at warns
  refine ⟨definitions, gives, ?_, ?_, warns⟩
  · rw [warns, List.map_eq_nil_iff]
    exact redeclared_eq_nil_iff (regular_of_gives gives)
  · rw [warns, List.length_map]
    exact length_redeclared definitions

/-- Two names with several declarations each, those of `Flag` all equal by value. -/
def mixedSchemas : List (Entries String) :=
  [[("Flag", "\x7b\"a\": 1, \"b\": [true]\x7d"), ("Pet", "\x7b\"a\": 1\x7d")],
    [("Flag", "\x7b\"b\": [1], \"a\": 1.0\x7d"), ("Pet", "\x7b\"a\": 2\x7d")],
    [("Pet", "\x7b\"a\": 2.0\x7d"), ("Flag", "\x7b\"a\": true, \"b\": [1.0]\x7d")],
    [("Pet", "\x7b\"a\": 1\x7d")]]

theorem registerAll_mixedSchemas : ∃ definitions,
    List.Forall₂ Gives mixedSchemas.flatten definitions ∧
    ((empty.registerAll mixedSchemas).warnings = [] ↔ IsConsistent definitions) ∧
    (empty.registerAll mixedSchemas).warnings.length =
      definitions.zipIdx.countP (redeclares definitions) ∧
    (empty.registerAll mixedSchemas).warnings = (redeclared definitions).map .repeatedSchema := by
  have succeeds : (empty.registerAll mixedSchemas).outcome.toOption.isSome = true := by
    decide +kernel
  cases outcome : (empty.registerAll mixedSchemas).outcome with
  | error s =>
    rw [outcome] at succeeds
    cases succeeds
  | ok registry => exact registerAll_warns outcome

example : (empty.registerAll mixedSchemas).warnings =
    [.repeatedSchema "Pet", .repeatedSchema "Pet"] := by
  decide +kernel

end Registry

end RamlBridge.Conversion

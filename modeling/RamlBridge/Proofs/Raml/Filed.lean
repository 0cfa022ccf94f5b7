import RamlBridge.Proofs.Raml.Correspondence
import RamlBridge.Proofs.Validation.TextKeys

/-!
How the entries of a map are filed. Those under a path are the resources below it, those that name
a method its actions, and the rest are its own; the three are taken out of the map apart from each
other.
-/
namespace RamlBridge

namespace Datum

/-- A map after entries are set in it one after the other. -/
def putKeys (start pairs : List (Scalar × Datum)) : List (Scalar × Datum) :=
  pairs.foldl (fun es p => putKey es p.1 p.2) start

theorem putKeys_cons (start : List (Scalar × Datum)) (p : Scalar × Datum)
    (rest : List (Scalar × Datum)) :
    putKeys start (p :: rest) = putKeys (putKey start p.1 p.2) rest := rfl

theorem lookup?_append (before after : List (Scalar × Datum)) (name : String) :
    lookup? (before ++ after) name = (lookup? before name).or (lookup? after name) := by
  induction before with
  | nil => rfl
  | cons p rest ih =>
    obtain ⟨k, v⟩ := p
    by_cases here : k = .text name
    · simp only [List.cons_append, lookup?, if_pos here, Option.some_or]
    · simp only [List.cons_append, lookup?, if_neg here, ih]

theorem lookup?_eq_none {es : List (Scalar × Datum)} {name : String}
    (h : ∀ p ∈ es, p.1 ≠ .text name) : lookup? es name = none := by
  induction es with
  | nil => rfl
  | cons p rest ih =>
    obtain ⟨first, later⟩ := List.forall_mem_cons.mp h
    obtain ⟨k, v⟩ := p
    simp only [lookup?, if_neg first]
    exact ih later

/-- Entries left out of a map do not change what stands under a name that is kept. -/
theorem lookup?_filter (keep : Scalar → Bool) {name : String} (kept : keep (.text name) = true)
    (es : List (Scalar × Datum)) :
    lookup? (es.filter fun p => keep p.1) name = lookup? es name := by
  induction es with
  | nil => rfl
  | cons p rest ih =>
    obtain ⟨k, v⟩ := p
    by_cases here : k = .text name
    · subst here
      simp only [List.filter_cons, kept, if_true, lookup?]
    · by_cases stays : keep k = true
      · simp only [List.filter_cons, stays, if_true, lookup?, if_neg here, ih]
      · simp only [List.filter_cons, if_neg stays, lookup?, if_neg here, ih]

end Datum

namespace Raml

open Checked Datum

def path? : Scalar → Option String
  | .text s => if isPath (.text s) then some s else none
  | _ => none

theorem path?_of_isPath {k : Scalar} (h : isPath k = true) :
    ∃ name, k = .text name ∧ path? k = some name := by
  cases k with
  | text s => exact ⟨s, rfl, if_pos h⟩
  | null | bool | int | float | bytes | date | clock | moment | pair => cases h

theorem path?_eq_none {k : Scalar} (h : isPath k = false) : path? k = none := by
  cases k with
  | text s => exact if_neg (by rw [h]; exact Bool.false_ne_true)
  | null | bool | int | float | bytes | date | clock | moment | pair => rfl

/-- A path begins with a slash in lower case too, and no method does. -/
theorem method?_of_isPath {k : Scalar} (h : isPath k = true) : method? k = none := by
  obtain ⟨s, rfl, _⟩ := path?_of_isPath h
  have lowered : (Text.lower s).toList.head? = some '/' := by
    have first : s.toList.head? = some '/' := beq_iff_eq.mp h
    obtain ⟨rest, hs⟩ := List.head?_eq_some_iff.mp first
    rw [Text.lower, String.toList_ofList, hs]
    rfl
  have noMethod : Text.lower s ∉ methods := by
    intro named
    have bare : ∀ m ∈ methods, m.toList.head? ≠ some '/' := by decide
    exact bare _ named lowered
  exact if_neg noMethod

theorem eq_of_isGroup {k : Scalar} (h : isGroup k = true) :
    k = .text "resources" ∨ k = .text "actions" := by
  cases k with
  | text s =>
    rcases Bool.or_eq_true_iff.mp h with same | same
    · exact Or.inl (congrArg Scalar.text (beq_iff_eq.mp same))
    · exact Or.inr (congrArg Scalar.text (beq_iff_eq.mp same))
  | null | bool | int | float | bytes | date | clock | moment | pair => cases h

theorem noPath_of_isGroup {k : Scalar} (h : isGroup k = true) : path? k = none := by
  rcases eq_of_isGroup h with rfl | rfl <;> rfl

theorem noMethod_of_isGroup {k : Scalar} (h : isGroup k = true) : method? k = none := by
  rcases eq_of_isGroup h with rfl | rfl <;> decide

def pathsOf (es : List (Scalar × Datum)) : Entries Datum :=
  es.filterMap fun p => (path? p.1).map fun name => (name, orEmpty p.2)

def methodsOf (es : List (Scalar × Datum)) : Entries Datum :=
  es.filterMap fun p => (method? p.1).map fun name => (name, orEmpty p.2)

/-- Whether an entry under a key says something of the resource itself. -/
def isOwn (k : Scalar) : Bool :=
  !isGroup k && !isPath k && (method? k).isNone

def ownEntries (es : List (Scalar × Datum)) : List (Scalar × Datum) :=
  es.filter fun p => isOwn p.1

theorem pathsOf_cons (p : Scalar × Datum) (rest : List (Scalar × Datum)) :
    pathsOf (p :: rest) =
      ((path? p.1).map fun name => (name, orEmpty p.2)).toList ++ pathsOf rest := by
  cases h : path? p.1 <;> simp [pathsOf, h]

theorem methodsOf_cons (p : Scalar × Datum) (rest : List (Scalar × Datum)) :
    methodsOf (p :: rest) =
      ((method? p.1).map fun name => (name, orEmpty p.2)).toList ++ methodsOf rest := by
  cases h : method? p.1 <;> simp [methodsOf, h]

theorem pathsOf_eq_nil {es : List (Scalar × Datum)} (h : ∀ p ∈ es, isPath p.1 = false) :
    pathsOf es = [] := by
  apply List.filterMap_eq_nil_iff.mpr
  intro p hp
  rw [path?_eq_none (h p hp)]
  rfl

theorem methodsOf_eq_nil {es : List (Scalar × Datum)} (h : ∀ p ∈ es, method? p.1 = none) :
    methodsOf es = [] := by
  apply List.filterMap_eq_nil_iff.mpr
  intro p hp
  rw [h p hp]
  rfl

/-- Filing the entries of a map one by one takes it apart in three. -/
theorem foldl_add (es : List (Scalar × Datum)) (parts : Parts) :
    es.foldl Parts.add parts = ⟨putKeys parts.resources (textKeyed (pathsOf es)),
      putKeys parts.actions (textKeyed (methodsOf es)), parts.fields ++ ownEntries es⟩ := by
  induction es generalizing parts with
  | nil => simp [pathsOf, methodsOf, ownEntries, textKeyed, putKeys]
  | cons p rest ih =>
    obtain ⟨k, d⟩ := p
    rw [List.foldl_cons, ih, pathsOf_cons, methodsOf_cons]
    -- In the order in which an entry is filed.
    by_cases inGroup : isGroup k = true
    · have nothing : isOwn k = false := by simp [isOwn, inGroup]
      simp [Parts.add, inGroup, noPath_of_isGroup inGroup, noMethod_of_isGroup inGroup, ownEntries,
        nothing]
    · by_cases path : isPath k = true
      · obtain ⟨name, rfl, hname⟩ := path?_of_isPath path
        have nothing : isOwn (.text name) = false := by simp [isOwn, path]
        simp [Parts.add, inGroup, path, hname, method?_of_isPath path, ownEntries, nothing,
          textKeyed, putKeys_cons]
      · have noPath := path?_eq_none (Bool.not_eq_true _ ▸ path)
        cases method : method? k with
        | some name =>
          have nothing : isOwn k = false := by simp [isOwn, method]
          simp [Parts.add, inGroup, path, noPath, method, ownEntries, nothing, textKeyed,
            putKeys_cons]
        | none =>
          have own : isOwn k = true := by simp [isOwn, inGroup, path, method]
          simp [Parts.add, inGroup, path, noPath, method, ownEntries, own, textKeyed]

/-- The parts of a resource: those of its groups first, then its own entries as they are filed. -/
theorem Parts.ofEntries_eq (es : List (Scalar × Datum)) :
    Parts.ofEntries es = (looseEntries (group es "resources")).andThen fun resources =>
      Checked.map (fun actions => ⟨putKeys resources (textKeyed (pathsOf es)),
          putKeys actions (textKeyed (methodsOf es)), ownEntries es⟩)
        (looseEntries (group es "actions")) := by
  simp only [Parts.ofEntries, foldl_add, List.nil_append]

theorem topResources_eq (es : List (Scalar × Datum)) :
    topResources es = Checked.map (fun start => putKeys start (textKeyed (pathsOf es)))
      (looseEntries (group es "resources")) := by
  have folded (start : List (Scalar × Datum)) :
      (es.filter fun p => isPath p.1).foldl
        (fun rs p => Datum.putKey rs p.1 (orEmpty p.2)) start =
      putKeys start (textKeyed (pathsOf es)) := by
    induction es generalizing start with
    | nil => rfl
    | cons p rest ih =>
      obtain ⟨k, d⟩ := p
      rw [pathsOf_cons]
      by_cases path : isPath k = true
      · obtain ⟨name, rfl, hname⟩ := path?_of_isPath path
        simp only [List.filter_cons, if_pos path, List.foldl_cons, ih, hname]
        rfl
      · simp only [List.filter_cons, if_neg path, ih, path?_eq_none (Bool.not_eq_true _ ▸ path)]
        rfl
  simp only [topResources, folded]

/-- What is said of a resource itself is read from its own entries. -/
theorem field_ownEntries {α : Type} (es : List (Scalar × Datum)) {key name : String} (absent : α)
    (check : Datum → Checked α) (ownKey : isOwn (.text key) = true)
    (ownName : isOwn (.text name) = true) :
    field (ownEntries es) key name absent check = field es key name absent check :=
  field_congr (lookup?_filter isOwn ownKey es) (lookup?_filter isOwn ownName es)

/-- The names of a resource under which single values and groups are looked up. -/
def Resource.plainNames : List String :=
  ["displayName", "display_name", "description", "resources", "actions"]

/-- A resource is read from its paths and methods and from what stands under its names. -/
theorem Resource.ofEntries_congr {mediaType : Datum} {es fs : List (Scalar × Datum)}
    (names : ∀ name ∈ Resource.plainNames, lookup? es name = lookup? fs name)
    (uriParameters : field es "uriParameters" "uri_parameters" [] (Parameter.readAll .uri) =
      field fs "uriParameters" "uri_parameters" [] (Parameter.readAll .uri))
    (paths : pathsOf es = pathsOf fs) (methods : methodsOf es = methodsOf fs) :
    Resource.ofEntries mediaType es = Resource.ofEntries mediaType fs := by
  simp only [Resource.plainNames, List.forall_mem_cons, List.not_mem_nil, false_implies,
    implies_true, and_true] at names
  have displayName : field (ownEntries es) "displayName" "display_name" none (nullable text) =
      field (ownEntries fs) "displayName" "display_name" none (nullable text) := by
    rw [field_ownEntries es _ _ (by decide) (by decide),
      field_ownEntries fs _ _ (by decide) (by decide)]
    exact field_congr names.1 names.2.1
  have description : field (ownEntries es) "description" "description" none (nullable text) =
      field (ownEntries fs) "description" "description" none (nullable text) := by
    rw [field_ownEntries es _ _ (by decide) (by decide),
      field_ownEntries fs _ _ (by decide) (by decide)]
    exact field_congr names.2.2.1 names.2.2.1
  have uri : field (ownEntries es) "uriParameters" "uri_parameters" [] (Parameter.readAll .uri) =
      field (ownEntries fs) "uriParameters" "uri_parameters" [] (Parameter.readAll .uri) := by
    rw [field_ownEntries es _ _ (by decide) (by decide),
      field_ownEntries fs _ _ (by decide) (by decide)]
    exact uriParameters
  rw [Resource.ofEntries_eq, Resource.ofEntries_eq, Parts.ofEntries_eq, Parts.ofEntries_eq, group,
    group, group, group, names.2.2.2.1, names.2.2.2.2, paths, methods]
  cases looseEntries ((lookup? fs "resources").getD .null) with
  | accepted resources =>
    cases looseEntries ((lookup? fs "actions").getD .null) with
    | accepted actions => simp only [andThen, Checked.map, displayName, description, uri]
    | refused faults => rfl
    | stopped obstacle => rfl
  | refused faults => rfl
  | stopped obstacle => rfl

def Root.plainNames : List String :=
  ["title", "version", "baseUri", "base_uri", "protocols", "mediaType", "media_type",
    "documentation", "schemas"]

/-- A description is read from its resources and from what stands under its names. -/
theorem Root.ofEntries_congr {mediaType : Datum} {es fs : List (Scalar × Datum)}
    (names : ∀ name ∈ Root.plainNames, lookup? es name = lookup? fs name)
    (parameters : field es "baseUriParameters" "base_uri_parameters" [] (Parameter.readAll .uri) =
      field fs "baseUriParameters" "base_uri_parameters" [] (Parameter.readAll .uri))
    (schemes : field es "securitySchemes" "security_schemes" [] readSchemes =
      field fs "securitySchemes" "security_schemes" [] readSchemes)
    (resources : Related (fun ps qs =>
      entriesOf (ps.map fun p => (p.1, Resource.read mediaType p.2)) =
        entriesOf (qs.map fun p => (p.1, Resource.read mediaType p.2)))
      (topResources es) (topResources fs)) :
    Root.ofEntries mediaType es = Root.ofEntries mediaType fs := by
  simp only [Root.plainNames, List.forall_mem_cons, List.not_mem_nil, false_implies,
    implies_true, and_true] at names
  unfold readSchemes at schemes
  simp only [Root.ofEntries, parameters, schemes]
  simp only [field, field?, names]
  generalize topResources es = tops at resources ⊢
  generalize topResources fs = others at resources ⊢
  cases resources with
  | accepted same =>
    simp only [andThen]
    rw [same]
  | refused faults => rfl
  | stopped obstacle => rfl

end Raml

end RamlBridge

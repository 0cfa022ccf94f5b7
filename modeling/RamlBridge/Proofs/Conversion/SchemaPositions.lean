import RamlBridge.Conversion.Schema
import RamlBridge.Proofs.Entries
import RamlBridge.Proofs.Json.Tree

/-!
Where schemas stand in a schema, and what stripping leaves of the marks there.
-/
namespace RamlBridge.Conversion

theorem stripItems_eq (items : List Json) : stripItems items = items.map stripRequired := by
  induction items with
  | nil => rfl
  | cons x xs ih => rw [stripItems, ih, List.map_cons]

theorem stripEach_eq (members : Entries Json) :
    stripEach members = members.mapValues stripRequired := by
  induction members with
  | nil => rfl
  | cons m rest ih =>
    rw [stripEach, ih]
    rfl

def stripUnder (name : String) (x : Json) : Json :=
  if name ∈ namedSchemaKeys then stripNamed x else stripRequired x

theorem stripMembers_eq (members : Entries Json) :
    stripMembers members = (members.erase "required").map fun m => (m.1, stripUnder m.1 m.2) := by
  induction members with
  | nil => rfl
  | cons m rest ih =>
    obtain ⟨name, x⟩ := m
    by_cases marker : name = "required"
    · simpa [stripMembers, Entries.erase, marker] using ih
    · by_cases named : name ∈ namedSchemaKeys
      all_goals simpa [stripMembers, Entries.erase, stripUnder, marker, named] using ih

theorem mem_stripMembers {members : Entries Json} {name : String} {y : Json}
    (h : (name, y) ∈ stripMembers members) :
    ∃ x, (name, x) ∈ members ∧ y = stripUnder name x := by
  rw [stripMembers_eq] at h
  obtain ⟨m, hm, same⟩ := List.mem_map.mp h
  cases same
  exact ⟨m.2, (List.mem_filter.mp hm).1, rfl⟩

theorem names_stripMembers (members : Entries Json) :
    Entries.names (stripMembers members) = (members.erase "required").names := by
  rw [stripMembers_eq, Entries.names, List.map_map]
  rfl

theorem mem_of_mem_withoutTopKeys {members : Entries Json} {m : String × Json}
    (h : m ∈ withoutTopKeys members) : m ∈ members :=
  (List.mem_filter.mp (List.mem_filter.mp h).1).1

/-- A definition holds the stripped members of its schema, and at most a list of names more. -/
theorem mem_definitionOf {members : Entries Json} {m : String × Json}
    (h : m ∈ definitionOf members) : m ∈ stripMembers (withoutTopKeys members) ∨
      ∃ names : List String, m = ("required", .array (names.map .text)) := by
  rw [definitionOf] at h
  rcases List.mem_append.mp h with kept | added
  · exact .inl kept
  · split at added
    · cases added
    · exact .inr ⟨_, List.mem_singleton.mp added⟩

/-- What arrays always have, and an object still has with fewer names, a value keeps when it is
stripped. -/
theorem everywhere_strip {P : Json → Prop} (arrays : ∀ items, P (.array items))
    (objects : ∀ ms ns, (Entries.names ns).Sublist (Entries.names ms) →
      P (.object ms) → P (.object ns))
    {v : Json} (h : v.Everywhere P) :
    (stripRequired v).Everywhere P ∧ (stripNamed v).Everywhere P := by
  -- The two call one another, one level down each, so that neither goes through alone.
  induction v using Json.tree_induction with
  | array items ih =>
    have stripped : (Json.array (stripItems items)).Everywhere P := by
      rw [stripItems_eq, Json.everywhere_array]
      refine ⟨arrays _, fun y hy => ?_⟩
      obtain ⟨x, hx, rfl⟩ := List.mem_map.mp hy
      exact (ih x hx ((Json.everywhere_array.mp h).2 x hx)).1
    exact ⟨stripped, stripped⟩
  | object members ih =>
    obtain ⟨here, inside⟩ := Json.everywhere_object.mp h
    have below (m : String × Json) (hm : m ∈ members) := ih m hm (inside m hm)
    rw [stripRequired, stripNamed, Json.everywhere_object, Json.everywhere_object]
    refine ⟨⟨objects members _ ?_ here, fun n hn => ?_⟩,
      ⟨objects members _ ?_ here, fun n hn => ?_⟩⟩
    · rw [names_stripMembers]
      exact List.filter_sublist.map Prod.fst
    · obtain ⟨x, hx, same⟩ := mem_stripMembers hn
      rw [same, stripUnder]
      split
      · exact (below _ hx).2
      · exact (below _ hx).1
    · have names : Entries.names (stripEach members) = Entries.names members := by
        rw [stripEach_eq, Entries.names_mapValues]
      exact names ▸ List.Sublist.refl _
    · rw [stripEach_eq] at hn
      obtain ⟨m, hm, rfl⟩ := List.mem_map.mp hn
      exact (below m hm).1
  | _ => exact ⟨h, h⟩

theorem unmarked_stripMembers (members : Entries Json) :
    "required" ∉ Entries.names (stripMembers members) := by
  rw [names_stripMembers]
  exact Entries.not_mem_names_erase members "required"

/-- A schema stands at a position of a value: at the value itself, among the items of an array, and
under every key but `required`. Where a key holds freely named schemas, they stand there and
not the object that names them. -/
inductive SchemaPosition (v : Json) : Json → Prop
  | self : SchemaPosition v v
  | item {items x} : SchemaPosition v (.array items) → x ∈ items → SchemaPosition v x
  | member {members name x} : SchemaPosition v (.object members) → (name, x) ∈ members →
      name ≠ "required" → (name ∈ namedSchemaKeys → ∀ schemas, x ≠ .object schemas) →
      SchemaPosition v x
  | named {members name schemas key x} : SchemaPosition v (.object members) →
      (name, .object schemas) ∈ members → name ∈ namedSchemaKeys → (key, x) ∈ schemas →
      SchemaPosition v x

theorem source_of_stripRequired_array {v : Json} {items : List Json}
    (h : stripRequired v = .array items) :
    ∃ xs : List Json, items = xs.map stripRequired := by
  cases v with
  | array xs =>
    cases h
    exact ⟨xs, stripItems_eq xs⟩
  | _ => cases h

theorem source_of_stripRequired_object {v : Json} {members : Entries Json}
    (h : stripRequired v = .object members) : ∃ ms, members = stripMembers ms := by
  cases v with
  | object ms =>
    cases h
    exact ⟨ms, rfl⟩
  | _ => cases h

theorem source_of_stripNamed_object {v : Json} {members : Entries Json}
    (h : stripNamed v = .object members) : ∃ ms, members = Entries.mapValues stripRequired ms := by
  cases v with
  | object ms =>
    cases h
    exact ⟨ms, stripEach_eq ms⟩
  | _ => cases h

theorem stripNamed_of_not_object {x : Json} (h : ∀ schemas, stripNamed x ≠ .object schemas) :
    stripNamed x = stripRequired x := by
  cases x with
  | object ms => exact absurd rfl (h (stripEach ms))
  | _ => rfl

/-- All that stands at a position of a stripped value is stripped. -/
theorem stripped_of_schemaPosition {v w : Json} (h : SchemaPosition (stripRequired v) w) :
    ∃ u, w = stripRequired u := by
  induction h with
  | self => exact ⟨v, rfl⟩
  | item _ hx ih =>
    obtain ⟨u, hu⟩ := ih
    obtain ⟨xs, rfl⟩ := source_of_stripRequired_array hu.symm
    obtain ⟨x, _, same⟩ := List.mem_map.mp hx
    exact ⟨x, same.symm⟩
  | member _ hx _ single ih =>
    obtain ⟨u, hu⟩ := ih
    obtain ⟨ms, rfl⟩ := source_of_stripRequired_object hu.symm
    obtain ⟨x, _, rfl⟩ := mem_stripMembers hx
    unfold stripUnder at single ⊢
    split
    · next free =>
      simp only [if_pos free] at single
      exact ⟨x, stripNamed_of_not_object (single free)⟩
    · exact ⟨x, rfl⟩
  | named _ hschemas free hx ih =>
    obtain ⟨u, hu⟩ := ih
    obtain ⟨ms, rfl⟩ := source_of_stripRequired_object hu.symm
    obtain ⟨x, _, same⟩ := mem_stripMembers hschemas
    rw [stripUnder, if_pos free] at same
    obtain ⟨inner, rfl⟩ := source_of_stripNamed_object same.symm
    obtain ⟨m, _, made⟩ := List.mem_map.mp hx
    cases made
    exact ⟨m.2, rfl⟩

/-- No object at a position of a value is marked. -/
def IsUnmarked (v : Json) : Prop :=
  ∀ members, SchemaPosition v (.object members) → "required" ∉ Entries.names members

theorem isUnmarked_stripRequired (v : Json) : IsUnmarked (stripRequired v) := by
  intro members position
  obtain ⟨u, hu⟩ := stripped_of_schemaPosition position
  obtain ⟨ms, rfl⟩ := source_of_stripRequired_object hu.symm
  exact unmarked_stripMembers ms

end RamlBridge.Conversion

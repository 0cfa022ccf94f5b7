import RamlBridge.Datum.Json
import RamlBridge.Proofs.Entries
import RamlBridge.Proofs.Json.Tree

/-!
What is done to values before they are written: no number comes in, and the names of an object are
made distinct.
-/
namespace RamlBridge.Json

/-- A property that only numbers can lack. -/
structure OfNumbers (P : Json → Prop) : Prop where
  null : P .null
  bool : ∀ b, P (.bool b)
  text : ∀ s, P (.text s)
  array : ∀ items, P (.array items)
  object : ∀ members, P (.object members)

theorem ofNumbers_isExact : OfNumbers IsExact :=
  ⟨trivial, fun _ => trivial, fun _ => trivial, fun _ => trivial, fun _ => trivial⟩

theorem ofNumbers_isShort : OfNumbers IsShort :=
  ⟨trivial, fun _ => trivial, fun _ => trivial, fun _ => trivial, fun _ => trivial⟩

namespace OfNumbers

variable {P : Json → Prop} (numbers : OfNumbers P)

include numbers

theorem everywhere_array {items : List Json} :
    (Json.array items).Everywhere P ↔ ∀ x ∈ items, x.Everywhere P :=
  Json.everywhere_array.trans (and_iff_right (numbers.array items))

theorem everywhere_object {members : List (String × Json)} :
    (Json.object members).Everywhere P ↔ ∀ m ∈ members, m.2.Everywhere P :=
  Json.everywhere_object.trans (and_iff_right (numbers.object members))

end OfNumbers

section Finite

theorem finiteItems_eq (items : List Json) : finiteItems items = items.map finiteOnly := by
  induction items with
  | nil => rfl
  | cons x xs ih => rw [finiteItems, ih, List.map_cons]

theorem finiteMembers_eq (members : List (String × Json)) :
    finiteMembers members = Entries.mapValues finiteOnly members := by
  induction members with
  | nil => rfl
  | cons m rest ih =>
    obtain ⟨name, x⟩ := m
    rw [finiteMembers, ih]
    rfl

theorem OfNumbers.everywhere_finiteOnly {P : Json → Prop} (numbers : OfNumbers P) {v : Json}
    (h : v.Everywhere P) : v.finiteOnly.Everywhere P := by
  induction v using tree_induction with
  | float x =>
    rw [finiteOnly]
    split
    · exact h
    · exact numbers.null
  | array items ih =>
    rw [finiteOnly, finiteItems_eq, numbers.everywhere_array]
    intro y hy
    obtain ⟨x, hx, rfl⟩ := List.mem_map.mp hy
    exact ih x hx (numbers.everywhere_array.mp h x hx)
  | object members ih =>
    rw [finiteOnly, finiteMembers_eq, numbers.everywhere_object]
    intro n hn
    obtain ⟨m, hm, rfl⟩ := List.mem_map.mp hn
    exact ih m hm (numbers.everywhere_object.mp h m hm)
  | _ => exact h

end Finite

section Encodable

theorem encodableItems_eq (items : List Json) : encodableItems items = items.map encodable := by
  induction items with
  | nil => rfl
  | cons x xs ih => rw [encodableItems, ih, List.map_cons]

theorem encodableMembers_eq (members : List (String × Json)) :
    encodableMembers members =
      members.map fun m => (Text.withoutHalves m.1, m.2.encodable) := by
  induction members with
  | nil => rfl
  | cons m rest ih =>
    obtain ⟨name, x⟩ := m
    rw [encodableMembers, ih, List.map_cons]

theorem holdsHalf_withoutHalves (s : String) : Text.holdsHalf (Text.withoutHalves s) = false := by
  unfold Text.withoutHalves
  by_cases h : Text.holdsHalf s = true
  · rw [if_pos h, Text.holdsHalf, String.toList_ofList, List.any_eq_false]
    intro c hc
    obtain ⟨d, _, hd⟩ := List.mem_flatMap.mp hc
    by_cases half : Text.isHalf d = true
    · rw [if_pos half] at hd
      rw [List.eq_of_mem_replicate hd]
      decide
    · rw [if_neg half] at hd
      rwa [List.mem_singleton.mp hd]
  · rw [if_neg h]
    exact Bool.not_eq_true _ |>.mp h

theorem withoutHalves_of_whole {s : String} (h : Text.holdsHalf s = false) :
    Text.withoutHalves s = s := by
  rw [Text.withoutHalves, h, if_neg Bool.false_ne_true]

/-- What stands in an object whose names can be encoded was there before. -/
theorem source_of_mem_encodable {members : List (String × Json)} {n : String × Json}
    (hn : n ∈ Entries.ofList (encodableMembers members)) :
    ∃ m ∈ members, n.2 = m.2.encodable := by
  have put := Entries.mem_ofList hn
  rw [encodableMembers_eq] at put
  obtain ⟨m, hm, rfl⟩ := List.mem_map.mp put
  exact ⟨m, hm, rfl⟩

theorem OfNumbers.everywhere_encodable {P : Json → Prop} (numbers : OfNumbers P) {v : Json}
    (h : v.Everywhere P) : v.encodable.Everywhere P := by
  induction v using tree_induction with
  | array items ih =>
    rw [encodable, encodableItems_eq, numbers.everywhere_array]
    intro y hy
    obtain ⟨x, hx, rfl⟩ := List.mem_map.mp hy
    exact ih x hx (numbers.everywhere_array.mp h x hx)
  | object members ih =>
    rw [encodable, numbers.everywhere_object]
    intro n hn
    obtain ⟨m, hm, same⟩ := source_of_mem_encodable hn
    rw [same]
    exact ih m hm (numbers.everywhere_object.mp h m hm)
  | _ => exact h

/-- Names that fall together once they can be encoded are one name. -/
theorem distinct_encodable (v : Json) : v.encodable.Everywhere IsDistinct := by
  induction v using tree_induction with
  | array items ih =>
    rw [encodable, encodableItems_eq, everywhere_array]
    refine ⟨trivial, ?_⟩
    intro y hy
    obtain ⟨x, hx, rfl⟩ := List.mem_map.mp hy
    exact ih x hx
  | object members ih =>
    rw [encodable, everywhere_object]
    refine ⟨Entries.nodup_names_ofList _, ?_⟩
    intro n hn
    obtain ⟨m, hm, same⟩ := source_of_mem_encodable hn
    rw [same]
    exact ih m hm
  | _ => trivial

/-- Exact values are faithful once their names can be encoded. -/
theorem faithful_encodable {v : Json} (h : v.Everywhere IsExact) : v.encodable.Faithful :=
  ⟨ofNumbers_isExact.everywhere_encodable h, distinct_encodable v⟩

end Encodable

end RamlBridge.Json

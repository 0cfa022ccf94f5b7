import Mathlib.Data.List.Perm.Subperm
import RamlBridge.Proofs.Entries
import RamlBridge.Proofs.Json.Parsed

/-!
Equality by value is an equivalence of the values that are read. Two scalars are equal if both are
the same integer, or else the same value; two arrays if they are item by item, and two objects if
every name stands for equal values in both.
-/
namespace RamlBridge.Json

def IsScalar : Json → Prop
  | .array _ => False
  | .object _ => False
  | _ => True

theorem same_float_iff {x y : Binary64} (hx : x.IsNormal) (hy : y.IsNormal) :
    x.same y = true ↔ x.toInt? = y.toInt? ∧ (x.toInt? = none → x = y) := by
  constructor
  · intro h
    exact ⟨Binary64.toInt?_of_same h, Binary64.eq_of_same h⟩
  · rintro ⟨same, fractional⟩
    cases found : x.toInt? with
    | none =>
      rw [fractional found]
      exact Binary64.same_refl y
    | some k => exact Binary64.same_of_toInt? hx hy found (same ▸ found)

theorem same_scalar_iff {a b : Json} (scalar : a.IsScalar) (ha : a.Regular) (hb : b.Regular) :
    a.same b = true ↔ a.integer? = b.integer? ∧ (a.integer? = none → a = b) := by
  cases a with
  | array | object => cases scalar
  | null | text => cases b <;> simp [same, sameScalar, integer?]
  | bool | int =>
    cases b with
    | float y => cases found : y.toInt? <;> simp [same, sameScalar, integer?, found]
    | _ => simp [same, sameScalar, integer?]
  | float x =>
    cases b with
    | float y => simpa [same, sameScalar, integer?] using same_float_iff ha hb
    | _ => cases found : x.toInt? <;> simp [same, sameScalar, integer?, found]

theorem sameItems_iff {xs ys : List Json} :
    sameItems xs ys = true ↔ List.Forall₂ (fun x y => x.same y = true) xs ys := by
  induction xs generalizing ys with
  | nil => cases ys <;> simp [sameItems]
  | cons x xs ih => cases ys <;> simp [sameItems, ih]

theorem sameMembers_iff {ms ns : List (String × Json)} :
    sameMembers ms ns = true ↔
      ∀ m ∈ ms, ∃ y, Entries.find? ns m.1 = some y ∧ m.2.same y = true := by
  induction ms with
  | nil => simp [sameMembers]
  | cons m rest ih =>
    obtain ⟨name, x⟩ := m
    cases found : Entries.find? ns name <;> simp [sameMembers, ih, found]

theorem same_array_iff {xs : List Json} {b : Json} :
    (Json.array xs).same b = true ↔
      ∃ ys, b = .array ys ∧ List.Forall₂ (fun x y => x.same y = true) xs ys := by
  cases b <;> simp [same, sameItems_iff]

/-- The names of an object that all stand in another one, of as many members, are all its names. -/
theorem perm_names {ms ns : Entries Json} (distinct : ms.names.Nodup)
    (length : ms.length = ns.length) (within : ∀ name ∈ ms.names, name ∈ ns.names) :
    ms.names.Perm ns.names := by
  have sub : ms.names.Subperm ns.names := List.subperm_of_subset distinct within
  refine sub.perm_of_length_le ?_
  simp [Entries.names, length]

/-- Objects agree if they have the same names, with equal values under each of them. -/
structure Agree (ms ns : Entries Json) : Prop where
  names : ∀ name, name ∈ ms.names ↔ name ∈ ns.names
  values : ∀ name x y, (name, x) ∈ ms → (name, y) ∈ ns → x.same y = true

theorem agree_of_same {ms ns : Entries Json} (hms : (Json.object ms).Regular)
    (hns : (Json.object ns).Regular) (h : (Json.object ms).same (.object ns) = true) :
    Agree ms ns := by
  obtain ⟨length, inside⟩ : ms.length = ns.length ∧
      ∀ m ∈ ms, ∃ y, ns.find? m.1 = some y ∧ m.2.same y = true := by
    simpa [same, sameMembers_iff] using h
  constructor
  · refine fun name => (perm_names (regular_object.mp hms).1 length ?_).mem_iff
    intro name hname
    obtain ⟨m, hm, rfl⟩ := List.mem_map.mp hname
    obtain ⟨y, hy, _⟩ := inside m hm
    exact List.mem_map.mpr ⟨(m.1, y), Entries.mem_of_find? hy, rfl⟩
  · intro name x y hx hy
    obtain ⟨z, hz, equal⟩ := inside _ hx
    rw [Entries.find?_of_mem (regular_object.mp hns).1 hy] at hz
    cases hz
    exact equal

theorem same_of_agree {ms ns : Entries Json} (hms : (Json.object ms).Regular)
    (hns : (Json.object ns).Regular) (h : Agree ms ns) :
    (Json.object ms).same (.object ns) = true := by
  have names : ms.names.Perm ns.names :=
    (List.perm_ext_iff_of_nodup (regular_object.mp hms).1 (regular_object.mp hns).1).mpr h.names
  have length : ms.length = ns.length := by simpa [Entries.names] using names.length_eq
  have inside : sameMembers ms ns = true := by
    refine sameMembers_iff.mpr fun m hm => ?_
    obtain ⟨n, hn, same⟩ := List.mem_map.mp ((h.names m.1).mp (List.mem_map_of_mem hm))
    refine ⟨n.2, ?_, h.values m.1 m.2 n.2 hm (same ▸ hn)⟩
    exact same ▸ Entries.find?_of_mem (regular_object.mp hns).1 hn
  simp [same, length, inside]

/-- What is equal to an object is an object that agrees with it. -/
theorem same_object_iff {ms : Entries Json} {b : Json} (hms : (Json.object ms).Regular)
    (hb : b.Regular) :
    (Json.object ms).same b = true ↔ ∃ ns, b = .object ns ∧ Agree ms ns := by
  constructor
  · intro h
    cases b with
    | object ns => exact ⟨ns, rfl, agree_of_same hms hb h⟩
    | _ => cases h
  · rintro ⟨ns, rfl, agree⟩
    exact same_of_agree hms hb agree

theorem same_refl {v : Json} (h : v.Regular) : v.same v = true := by
  induction v using tree_induction with
  | array items ih =>
    refine same_array_iff.mpr ⟨items, rfl, ?_⟩
    exact List.forall₂_same.mpr fun x hx => ih x hx (regular_array.mp h x hx)
  | object members ih =>
    obtain ⟨distinct, inside⟩ := regular_object.mp h
    refine (same_object_iff h h).mpr ⟨members, rfl, fun name => Iff.rfl, fun name x y hx hy => ?_⟩
    have found := Entries.find?_of_mem distinct hx
    rw [Entries.find?_of_mem distinct hy] at found
    cases found
    exact ih _ hx (inside _ hx)
  | null | bool | int | float | text =>
    exact (same_scalar_iff (by trivial) h h).mpr ⟨rfl, fun _ => rfl⟩

theorem isScalar_of_same {a b : Json} (h : a.same b = true) (scalar : a.IsScalar) :
    b.IsScalar := by
  cases a with
  | array | object => cases scalar
  | _ =>
    cases b with
    | array | object => simp [same, sameScalar, integer?] at h
    | _ => trivial

theorem same_symm {a b : Json} (ha : a.Regular) (hb : b.Regular) (h : a.same b = true) :
    b.same a = true := by
  induction a using tree_induction generalizing b with
  | array xs ih =>
    obtain ⟨ys, rfl, items⟩ := same_array_iff.mp h
    refine same_array_iff.mpr ⟨xs, rfl, ?_⟩
    rw [List.forall₂_iff_get] at items ⊢
    refine ⟨items.1.symm, fun i hy hx => ?_⟩
    exact ih _ (List.get_mem xs ⟨i, hx⟩) (regular_array.mp ha _ (List.get_mem xs ⟨i, hx⟩))
      (regular_array.mp hb _ (List.get_mem ys ⟨i, hy⟩)) (items.2 i hx hy)
  | object ms ih =>
    obtain ⟨ns, rfl, agree⟩ := (same_object_iff ha hb).mp h
    refine (same_object_iff hb ha).mpr ⟨ms, rfl, fun name => (agree.names name).symm, ?_⟩
    intro name y x hy hx
    exact ih _ hx ((regular_object.mp ha).2 _ hx) ((regular_object.mp hb).2 _ hy)
      (agree.values name x y hx hy)
  | null | bool | int | float | text =>
    obtain ⟨integers, others⟩ := (same_scalar_iff (by trivial) ha hb).mp h
    refine (same_scalar_iff (isScalar_of_same h (by trivial)) hb ha).mpr ⟨integers.symm, ?_⟩
    exact fun none => (others (integers.trans none)).symm

theorem same_trans {a b c : Json} (ha : a.Regular) (hb : b.Regular) (hc : c.Regular)
    (first : a.same b = true) (second : b.same c = true) : a.same c = true := by
  induction a using tree_induction generalizing b c with
  | array xs ih =>
    obtain ⟨ys, rfl, left⟩ := same_array_iff.mp first
    obtain ⟨zs, rfl, right⟩ := same_array_iff.mp second
    refine same_array_iff.mpr ⟨zs, rfl, ?_⟩
    -- by positions, so that an item of the second array is at hand for each of the first
    rw [List.forall₂_iff_get] at left right ⊢
    refine ⟨left.1.trans right.1, fun i hx hz => ?_⟩
    have hy : i < ys.length := left.1 ▸ hx
    exact ih _ (List.get_mem xs ⟨i, hx⟩) (regular_array.mp ha _ (List.get_mem xs ⟨i, hx⟩))
      (regular_array.mp hb _ (List.get_mem ys ⟨i, hy⟩))
      (regular_array.mp hc _ (List.get_mem zs ⟨i, hz⟩)) (left.2 i hx hy) (right.2 i hy hz)
  | object ms ih =>
    obtain ⟨ns, rfl, left⟩ := (same_object_iff ha hb).mp first
    obtain ⟨ks, rfl, right⟩ := (same_object_iff hb hc).mp second
    refine (same_object_iff ha hc).mpr
      ⟨ks, rfl, fun name => (left.names name).trans (right.names name), ?_⟩
    intro name x z hx hz
    obtain ⟨⟨n, y⟩, hy, rfl⟩ := List.mem_map.mp ((left.names name).mp (List.mem_map_of_mem hx))
    exact ih _ hx ((regular_object.mp ha).2 _ hx) ((regular_object.mp hb).2 _ hy)
      ((regular_object.mp hc).2 _ hz) (left.values _ x y hx hy) (right.values _ y z hy hz)
  | null | bool | int | float | text =>
    have middle := isScalar_of_same first (by trivial)
    obtain ⟨left, equal⟩ := (same_scalar_iff (by trivial) ha hb).mp first
    obtain ⟨right, equal'⟩ := (same_scalar_iff middle hb hc).mp second
    refine (same_scalar_iff (by trivial) ha hc).mpr ⟨left.trans right, fun none => ?_⟩
    exact (equal none).trans (equal' (left.symm.trans none))

example : (Json.object [("a", .int 1), ("b", .bool true)]).same
    (.object [("b", .float (.finite false (2 ^ 52) (-52))), ("a", .bool true)]) = true := by
  decide

end RamlBridge.Json

import RamlBridge.Json.Reader
import RamlBridge.Json.Printer
import RamlBridge.Proofs.Decimal.Digits

/-!
The tree of a JSON value: one induction over it, and what holds everywhere in it. A value is
faithful if its text denotes it, for which it may hold no number that is read back as another one
and no name twice in an object.
-/
namespace RamlBridge.Json

section Induction

variable {motive : Json → Prop} (null : motive .null) (bool : ∀ b, motive (.bool b))
  (int : ∀ n, motive (.int n)) (float : ∀ x, motive (.float x)) (text : ∀ s, motive (.text s))
  (array : ∀ items, (∀ x ∈ items, motive x) → motive (.array items))
  (object : ∀ members, (∀ m ∈ members, motive m.2) → motive (.object members))

include null bool int float text array object

/-- What holds of the scalars, and of a collection whenever it holds of all that stands in it,
holds of every value. -/
theorem tree_induction (v : Json) : motive v := by
  refine @Json.rec motive (fun items => ∀ x ∈ items, motive x)
    (fun members => ∀ m ∈ members, motive m.2) (fun m => motive m.2) null bool int float text
    array object ?_ ?_ ?_ ?_ ?_ v
  · intro x hx
    cases hx
  · intro x xs first rest y hy
    rcases List.mem_cons.mp hy with rfl | later
    · exact first
    · exact rest y later
  · intro m hm
    cases hm
  · intro m ms first rest n hn
    rcases List.mem_cons.mp hn with rfl | later
    · exact first
    · exact rest n later
  · intro name x h
    exact h

end Induction

mutual

/-- A property holds of a value and of everything that stands in it. -/
def Everywhere (P : Json → Prop) : Json → Prop
  | .array items => P (.array items) ∧ InItems P items
  | .object members => P (.object members) ∧ InMembers P members
  | v => P v

def InItems (P : Json → Prop) : List Json → Prop
  | [] => True
  | x :: xs => Everywhere P x ∧ InItems P xs

def InMembers (P : Json → Prop) : List (String × Json) → Prop
  | [] => True
  | (_, x) :: rest => Everywhere P x ∧ InMembers P rest

end

section Everywhere

variable {P : Json → Prop}

theorem inItems_iff {items : List Json} : InItems P items ↔ ∀ x ∈ items, x.Everywhere P := by
  induction items with
  | nil => simp [InItems]
  | cons x xs ih => simp [InItems, ih]

theorem inMembers_iff {members : List (String × Json)} :
    InMembers P members ↔ ∀ m ∈ members, m.2.Everywhere P := by
  induction members with
  | nil => simp [InMembers]
  | cons m rest ih => simp [InMembers, ih]

theorem everywhere_array {items : List Json} :
    (Json.array items).Everywhere P ↔ P (.array items) ∧ ∀ x ∈ items, x.Everywhere P := by
  rw [Everywhere, inItems_iff]

theorem everywhere_object {members : List (String × Json)} :
    (Json.object members).Everywhere P ↔
      P (.object members) ∧ ∀ m ∈ members, m.2.Everywhere P := by
  rw [Everywhere, inMembers_iff]

/-- What follows from a property wherever it stands holds everywhere with it. -/
theorem Everywhere.imp {Q : Json → Prop} (step : ∀ v, P v → Q v) {v : Json}
    (h : v.Everywhere P) : v.Everywhere Q := by
  induction v using tree_induction with
  | null | bool | int | float | text => exact step _ h
  | array items ih =>
    obtain ⟨here, inside⟩ := everywhere_array.mp h
    exact everywhere_array.mpr ⟨step _ here, fun x hx => ih x hx (inside x hx)⟩
  | object members ih =>
    obtain ⟨here, inside⟩ := everywhere_object.mp h
    exact everywhere_object.mpr ⟨step _ here, fun m hm => ih m hm (inside m hm)⟩

theorem everywhere_of_forall (h : ∀ v, P v) (v : Json) : v.Everywhere P := by
  induction v using tree_induction with
  | null | bool | int | float | text => exact h _
  | array items ih => exact everywhere_array.mpr ⟨h _, ih⟩
  | object members ih => exact everywhere_object.mpr ⟨h _, ih⟩

end Everywhere

/-- A number that is read back as it is written: an integer of not too many digits. -/
def IsExact : Json → Prop
  | .float _ => False
  | .int n => (Decimal.digits n.natAbs).length ≤ Decimal.mostDigits
  | _ => True

def IsShort : Json → Prop
  | .int n => Decimal.isShort n = true
  | _ => True

theorem itemsWritable_eq (items : List Json) : itemsWritable items = items.all isWritable := by
  induction items with
  | nil => rfl
  | cons x xs ih => rw [itemsWritable, ih, List.all_cons]

theorem membersWritable_eq (members : List (String × Json)) :
    membersWritable members = members.all (·.2.isWritable) := by
  induction members with
  | nil => rfl
  | cons m rest ih => rw [membersWritable, ih, List.all_cons]

theorem isWritable_iff {v : Json} : v.isWritable = true ↔ v.Everywhere IsShort := by
  induction v using tree_induction with
  | null | bool | float | text => exact iff_of_true rfl trivial
  | int n => exact Iff.rfl
  | array items ih =>
    rw [isWritable, itemsWritable_eq, List.all_eq_true, everywhere_array]
    exact (forall₂_congr ih).trans (and_iff_right trivial).symm
  | object members ih =>
    rw [isWritable, membersWritable_eq, List.all_eq_true, everywhere_object]
    exact (forall₂_congr ih).trans (and_iff_right trivial).symm

theorem write_of_isWritable (layout : Layout) {v : Json} (h : v.isWritable = true) :
    v.write layout = some (v.written layout) :=
  if_pos h

theorem write_eq_some {layout : Layout} {v : Json} {text : String}
    (h : v.write layout = some text) :
    v.isWritable = true ∧ text = v.written layout := by
  rw [write] at h
  split at h
  · next writable => exact ⟨writable, (Option.some.inj h).symm⟩
  · cases h

def IsDistinct : Json → Prop
  | .object members => (Entries.names members).Nodup
  | _ => True

/-- The numbers in a value are exact, and the names in its objects distinct. -/
structure Faithful (v : Json) : Prop where
  exact : v.Everywhere IsExact
  distinct : v.Everywhere IsDistinct

namespace Faithful

theorem item {items : List Json} (h : (Json.array items).Faithful) {x : Json} (hx : x ∈ items) :
    x.Faithful :=
  ⟨(everywhere_array.mp h.exact).2 x hx, (everywhere_array.mp h.distinct).2 x hx⟩

theorem member {members : List (String × Json)} (h : (Json.object members).Faithful)
    {m : String × Json} (hm : m ∈ members) : m.2.Faithful :=
  ⟨(everywhere_object.mp h.exact).2 m hm, (everywhere_object.mp h.distinct).2 m hm⟩

theorem names {members : List (String × Json)} (h : (Json.object members).Faithful) :
    (Entries.names members).Nodup :=
  (everywhere_object.mp h.distinct).1

/-- The object of one member is faithful if its value is. -/
theorem single {name : String} {v : Json} (h : v.Faithful) :
    (Json.object [(name, v)]).Faithful := by
  constructor
  · rw [everywhere_object]
    exact ⟨trivial, fun m hm => List.mem_singleton.mp hm ▸ h.exact⟩
  · rw [everywhere_object]
    exact ⟨List.nodup_cons.mpr ⟨List.not_mem_nil, List.nodup_nil⟩,
      fun m hm => List.mem_singleton.mp hm ▸ h.distinct⟩

theorem isWritable {v : Json} (h : v.Faithful) : v.isWritable = true :=
  isWritable_iff.mpr <| h.exact.imp fun w exact => by
    cases w with
    | int n => exact Decimal.isShort_iff.mpr exact
    | _ => trivial

end Faithful

end RamlBridge.Json

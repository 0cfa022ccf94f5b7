import Mathlib.Data.List.Forall2
import RamlBridge.Datum.Json
import RamlBridge.Proofs.Decimal.Digits
import RamlBridge.Proofs.Entries
import RamlBridge.Proofs.Json.Tree
import RamlBridge.Proofs.Outcome

/-!
Plain JSON values among the values of a document. Each of them can be shown and written.
-/
namespace RamlBridge

/-- A value is a JSON value as it stands: it holds no date, no bytes and no set, and no integer of
too many digits. -/
def Datum.IsPlain (d : Datum) : Prop :=
  ∃ v, d.json = .ok v

theorem Scalar.jsonInteger_eq_ok {n : Int} {t : String} (h : jsonInteger n = .ok t) :
    Decimal.isShort n = true := by
  unfold jsonInteger Decimal.integerText? at h
  by_cases short : Decimal.isShort n = true
  · exact short
  · rw [if_neg short] at h
    cases h

theorem Scalar.shown_of_jsonName {s : Scalar} {name : String} (h : s.jsonName = .ok name) :
    ∃ t, s.shown = some t := by
  cases s with
  | bool b => cases b <;> exact ⟨_, rfl⟩
  | int n => exact ⟨_, Decimal.integerText?_of_isShort (jsonInteger_eq_ok h)⟩
  | bytes | date | clock | moment | pair => cases h
  | _ => exact ⟨_, rfl⟩

theorem Scalar.shown_of_json {s : Scalar} {v : Json} (h : s.json = .ok v) :
    ∃ t, s.shown = some t := by
  cases s with
  | bool b => cases b <;> exact ⟨_, rfl⟩
  | int n =>
    rw [Scalar.json] at h
    split at h
    · next short => exact ⟨_, Decimal.integerText?_of_isShort short⟩
    · cases h
  | bytes | date | clock | moment | pair => cases h
  | _ => exact ⟨_, rfl⟩

namespace Datum

section Induction

variable {motive : Datum → Json → Prop}
  (scalar : ∀ s v, s.json = .ok v → motive (.scalar s) v)
  (list : ∀ items vs, List.Forall₂ motive items vs → motive (.list items) (.array vs))
  (pair : ∀ a b x y, motive a x → motive b y → motive (.pair a b) (.array [x, y]))
  (map : ∀ entries members,
    List.Forall₂ (fun p m => p.1.jsonName = .ok m.1 ∧ motive p.2 m.2) entries members →
      motive (.map entries) (.object members))

include scalar list pair map

/-- What holds of the scalars that are JSON, and of a collection with what it is in JSON whenever it
holds of all that stands in it, holds of every value that is JSON. -/
theorem json_induction {d : Datum} : ∀ {v : Json}, d.json = .ok v → motive d v := by
  refine @Datum.rec (fun d => ∀ {v}, d.json = .ok v → motive d v)
    (fun items => ∀ {vs}, itemsJson items = .ok vs → List.Forall₂ motive items vs)
    (fun entries => ∀ {members}, entriesJson entries = .ok members →
      List.Forall₂ (fun p m => p.1.jsonName = .ok m.1 ∧ motive p.2 m.2) entries members)
    (fun p => ∀ {v}, p.2.json = .ok v → motive p.2 v) ?scalar ?list ?pair ?set ?map ?noItem ?item
    ?noEntry ?entry ?part d
  case scalar => exact fun s v h => scalar s v h
  case list =>
    intro items ih v h
    obtain ⟨vs, hvs, rfl⟩ := map_eq_ok h
    exact list items vs (ih hvs)
  case pair =>
    intro a b first second v h
    obtain ⟨x, hx, h⟩ := bind_eq_ok h
    obtain ⟨y, hy, h⟩ := bind_eq_ok h
    cases h
    exact pair a b x y (first hx) (second hy)
  case set =>
    intro members v h
    cases h
  case map =>
    intro entries ih v h
    obtain ⟨members, hmembers, rfl⟩ := map_eq_ok h
    exact map entries members (ih hmembers)
  case noItem =>
    intro vs h
    cases h
    exact .nil
  case item =>
    intro x xs first later vs h
    obtain ⟨y, hy, h⟩ := bind_eq_ok h
    obtain ⟨ys, hys, h⟩ := bind_eq_ok h
    cases h
    exact .cons (first hy) (later hys)
  case noEntry =>
    intro members h
    cases h
    exact .nil
  case entry =>
    intro p rest first later members h
    obtain ⟨name, named, h⟩ := bind_eq_ok h
    obtain ⟨y, hy, h⟩ := bind_eq_ok h
    obtain ⟨ys, hys, h⟩ := bind_eq_ok h
    cases h
    exact .cons ⟨named, first hy⟩ (later hys)
  case part => exact fun key x h v hv => h hv

end Induction

theorem isPlain_of_itemsJson {items : List Datum} {vs : List Json}
    (h : itemsJson items = .ok vs) : ∀ d ∈ items, d.IsPlain := by
  induction items generalizing vs with
  | nil => exact fun d hd => absurd hd List.not_mem_nil
  | cons x xs ih =>
    obtain ⟨y, hy, h⟩ := bind_eq_ok h
    obtain ⟨ys, hys, _⟩ := bind_eq_ok h
    exact List.forall_mem_cons.mpr ⟨⟨y, hy⟩, ih hys⟩

theorem IsPlain.item {items : List Datum} (plain : (Datum.list items).IsPlain) :
    ∀ d ∈ items, d.IsPlain := by
  obtain ⟨v, h⟩ := plain
  obtain ⟨vs, h, _⟩ := map_eq_ok h
  exact isPlain_of_itemsJson h

theorem IsPlain.parts {a b : Datum} (plain : (Datum.pair a b).IsPlain) :
    a.IsPlain ∧ b.IsPlain := by
  obtain ⟨v, h⟩ := plain
  obtain ⟨x, hx, h⟩ := bind_eq_ok h
  obtain ⟨y, hy, _⟩ := bind_eq_ok h
  exact ⟨⟨x, hx⟩, y, hy⟩

section Pairs

variable {α β : Type} {xs : List α} {ys : List β}

theorem forall_left {P : α → Prop} (h : List.Forall₂ (fun x _ => P x) xs ys) : ∀ x ∈ xs, P x := by
  induction h with
  | nil => simp
  | cons first _ ih => exact List.forall_mem_cons.mpr ⟨first, ih⟩

theorem forall_right {P : β → Prop} (h : List.Forall₂ (fun _ y => P y) xs ys) : ∀ y ∈ ys, P y :=
  forall_left h.flip

end Pairs

section Shown

theorem shownItems_eq_some {items : List Datum} {vs : List Json}
    (h : List.Forall₂ (fun d _ => ∃ t, d.shown = some t) items vs) :
    ∃ ts, shownItems items = some ts := by
  induction h with
  | nil => exact ⟨[], rfl⟩
  | cons first _ ih =>
    obtain ⟨t, first⟩ := first
    obtain ⟨ts, later⟩ := ih
    exact ⟨t :: ts, by rw [shownItems, first, later]⟩

theorem shownEntries_eq_some {entries : List (Scalar × Datum)} {members : List (String × Json)}
    (h : List.Forall₂ (fun p m => p.1.jsonName = .ok m.1 ∧ ∃ t, p.2.shown = some t) entries
      members) :
    ∃ ts, shownEntries entries = some ts := by
  induction h with
  | nil => exact ⟨[], rfl⟩
  | cons first _ ih =>
    obtain ⟨named, t, first⟩ := first
    obtain ⟨k, named⟩ := Scalar.shown_of_jsonName named
    obtain ⟨ts, later⟩ := ih
    exact ⟨(k ++ ": " ++ t) :: ts, by rw [shownEntries, named, first, later]⟩

/-- A plain value can be shown. -/
theorem IsPlain.shown {d : Datum} (plain : d.IsPlain) : ∃ t, d.shown = some t := by
  obtain ⟨v, h⟩ := plain
  refine json_induction (motive := fun d _ => ∃ t, d.shown = some t) ?scalar ?list ?pair ?map h
  case scalar => exact fun s v => Scalar.shown_of_json
  case list =>
    intro items vs each
    obtain ⟨ts, shown⟩ := shownItems_eq_some each
    exact ⟨_, by rw [Datum.shown, shown]; rfl⟩
  case pair =>
    rintro a b x y ⟨s, first⟩ ⟨t, second⟩
    exact ⟨_, by rw [Datum.shown, first, second]⟩
  case map =>
    intro entries members each
    obtain ⟨ts, shown⟩ := shownEntries_eq_some each
    exact ⟨_, by rw [Datum.shown, shown]; rfl⟩

theorem IsPlain.plainText {d : Datum} (plain : d.IsPlain) : ∃ t, d.plainText = some t := by
  obtain ⟨t, shown⟩ := plain.shown
  cases d with
  | scalar s =>
    cases s with
    | text | date | clock | moment => exact ⟨_, rfl⟩
    | _ => exact ⟨t, shown⟩
  | _ => exact ⟨t, shown⟩

end Shown

section Written

open Json (IsShort everywhere_array everywhere_object)

theorem itemsToJson_eq (items : List Datum) : itemsToJson items = items.map toJson := by
  induction items with
  | nil => rfl
  | cons x xs ih => rw [itemsToJson, ih, List.map_cons]

theorem entriesToJson_eq (entries : List (Scalar × Datum)) :
    entriesToJson entries = entries.map fun p => (p.1.memberName, p.2.toJson) := by
  induction entries with
  | nil => rfl
  | cons p rest ih =>
    obtain ⟨key, x⟩ := p
    rw [entriesToJson, ih, List.map_cons]

/-- What a plain value is in JSON has no integer of too many digits, nor has what it is listed
as. -/
theorem isShort_of_json {d : Datum} {v : Json} (h : d.json = .ok v) :
    v.Everywhere IsShort ∧ d.toJson.Everywhere IsShort := by
  refine json_induction (motive := fun d v => v.Everywhere IsShort ∧ d.toJson.Everywhere IsShort)
    ?scalar ?list ?pair ?map h
  case scalar =>
    intro s v h
    cases s with
    | int n =>
      rw [Scalar.json] at h
      split at h
      · next short =>
        cases h
        exact ⟨short, short⟩
      · cases h
    | float x =>
      cases h
      refine ⟨trivial, ?_⟩
      rw [toJson, Scalar.toJson]
      split <;> trivial
    | bytes | date | clock | moment | pair => cases h
    | _ =>
      cases h
      exact ⟨trivial, trivial⟩
  case list =>
    intro items vs each
    rw [toJson, itemsToJson_eq, everywhere_array, everywhere_array, List.forall_mem_map]
    exact ⟨⟨trivial, forall_right (each.imp fun _ _ h => h.1)⟩,
      trivial, forall_left (each.imp fun _ _ h => h.2)⟩
  case pair =>
    intro a b x y first second
    simp only [toJson, everywhere_array, List.forall_mem_cons]
    exact ⟨⟨trivial, first.1, second.1, by simp⟩, trivial, first.2, second.2, by simp⟩
  case map =>
    intro entries members each
    rw [toJson, entriesToJson_eq, everywhere_object, everywhere_object]
    refine ⟨⟨trivial, forall_right (each.imp fun _ _ h => h.2.1)⟩, trivial, ?_⟩
    intro m hm
    obtain ⟨p, hp, rfl⟩ := List.mem_map.mp (Entries.mem_ofList hm)
    exact forall_left (each.imp fun _ _ h => h.2.2) p hp

/-- The text of the JSON that a plain value is. -/
theorem jsonText_of_json {d : Datum} {v : Json} (h : d.json = .ok v) :
    d.jsonText = .ok (v.written .asciiLine) := by
  have writable := Json.isWritable_iff.mpr (isShort_of_json h).1
  have written := Json.write_of_isWritable .asciiLine writable
  rw [jsonText, h, ok_bind, written]

end Written

mutual

/-- A JSON value among the values of a document is that JSON value, if it can be written. -/
theorem json_ofJson : ∀ {v : Json}, v.isWritable = true → (ofJson v).json = .ok v
  | .null, _ => rfl
  | .bool _, _ => rfl
  | .int n, h => if_pos h
  | .float _, _ => rfl
  | .text _, _ => rfl
  | .array items, h => by rw [ofJson, json, itemsJson_ofItems h]; rfl
  | .object members, h => by rw [ofJson, json, entriesJson_ofMembers h]; rfl

theorem itemsJson_ofItems : ∀ {items : List Json}, Json.itemsWritable items = true →
    itemsJson (ofItems items) = .ok items
  | [], _ => rfl
  | x :: xs, h => by
    rw [Json.itemsWritable, Bool.and_eq_true] at h
    rw [ofItems, itemsJson, json_ofJson h.1, ok_bind, itemsJson_ofItems h.2]
    rfl

theorem entriesJson_ofMembers : ∀ {members : List (String × Json)},
    Json.membersWritable members = true → entriesJson (ofMembers members) = .ok members
  | [], _ => rfl
  | (name, x) :: rest, h => by
    rw [Json.membersWritable, Bool.and_eq_true] at h
    rw [ofMembers, entriesJson, json_ofJson h.1, entriesJson_ofMembers h.2]
    rfl

end

end Datum

end RamlBridge

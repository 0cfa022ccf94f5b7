import RamlBridge.Proofs.Entries
import RamlBridge.Validation.Field

/-!
What an accepted value is known to be, by the checks that it passed.
-/
namespace RamlBridge.Checked

/-- Whatever is accepted has a property. -/
def Ensures {α : Type} (outcome : Checked α) (P : α → Prop) : Prop :=
  ∀ a, outcome = .accepted a → P a

namespace Ensures

variable {α β : Type} {P : β → Prop} {Q : α → Prop}

theorem of_forall {outcome : Checked α} (h : ∀ a, Q a) : Ensures outcome Q :=
  fun a _ => h a

theorem any (outcome : Checked α) : Ensures outcome fun _ => True :=
  of_forall fun _ => trivial

theorem itself (outcome : Checked α) : Ensures outcome fun a => outcome = .accepted a :=
  fun _ h => h

theorem fault (kind : FaultKind) : Ensures (Checked.fault kind) Q := by
  intro a h
  cases h

theorem map {f : α → β} {outcome : Checked α} (h : Ensures outcome fun a => P (f a)) :
    Ensures (f <$> outcome) P := by
  intro b hb
  cases outcome with
  | accepted a =>
    cases hb
    exact h a rfl
  | refused faults => cases hb
  | stopped obstacle => cases hb

/-- Two checks together accept what both of them accept. -/
theorem seq {first : Checked (α → β)} {second : Checked α}
    (hfirst : Ensures first fun f => ∀ a, Q a → P (f a)) (hsecond : Ensures second Q) :
    Ensures (first <*> second) P := by
  intro b hb
  cases first with
  | accepted f =>
    cases second with
    | accepted a =>
      cases hb
      exact hfirst f rfl a (hsecond a rfl)
    | refused faults => cases hb
    | stopped obstacle => cases hb
  | refused faults => cases second <;> cases hb
  | stopped obstacle => cases hb

/-- What comes after a check may rely on what was accepted. -/
theorem andThen {outcome : Checked α} {next : α → Checked β}
    (h : ∀ a, outcome = .accepted a → Ensures (next a) P) : Ensures (outcome.andThen next) P := by
  intro b hb
  cases outcome with
  | accepted a => exact h a rfl b hb
  | refused faults => cases hb
  | stopped obstacle => cases hb

theorem under {step : Step} {outcome : Checked α} (h : Ensures outcome Q) :
    Ensures (Checked.under step outcome) Q := by
  intro a ha
  cases outcome with
  | accepted b => exact h a ha
  | refused faults => cases ha
  | stopped obstacle => cases ha

/-- A field has what its check ensures, if the value for an absent one has it too. -/
theorem field {es : List (Scalar × Datum)} {key name : String} {absent : α}
    {check : Datum → Checked α} (habsent : Q absent) (hcheck : ∀ d, Ensures (check d) Q) :
    Ensures (Checked.field es key name absent check) Q := by
  unfold Checked.field
  split
  · exact (hcheck _).under
  · intro a ha
    cases ha
    exact habsent

/-- What is accepted beside null has what the check ensures. -/
theorem nullable {check : Datum → Checked α} (h : ∀ d, Ensures (check d) Q) (d : Datum) :
    Ensures (Checked.nullable check d) fun o => ∀ a, o = some a → Q a := by
  unfold Checked.nullable
  split
  · intro o accepted a same
    cases accepted
    cases same
  · refine map fun a accepted b same => ?_
    cases same
    exact h _ a accepted

theorem entriesOf (outcomes : List (Scalar × Checked α)) :
    Ensures (Checked.entriesOf outcomes) fun es => es.names.Nodup :=
  map (of_forall Entries.nodup_names_ofList)

/-- The names of accepted entries are distinct. -/
theorem entries (check : Datum → Checked α) (d : Datum) :
    Ensures (Checked.entries check d) fun es => es.names.Nodup := by
  cases d with
  | map es => exact entriesOf _
  | scalar s => exact fault _
  | list items => exact fault _
  | pair a b => exact fault _
  | set members => exact fault _

end Ensures

section Sources

variable {α : Type}

theorem source_of_all {outcomes : List (Checked α)} {xs : List α} (h : all outcomes = .accepted xs)
    {x : α} (hx : x ∈ xs) : Checked.accepted x ∈ outcomes := by
  induction outcomes generalizing xs with
  | nil =>
    cases h
    cases hx
  | cons outcome rest ih =>
    have parts : Ensures (all (outcome :: rest)) fun ys => ∃ y later, ys = y :: later ∧
        outcome = .accepted y ∧ all rest = .accepted later := by
      refine .seq (.map ?_) (.itself (all rest))
      intro y hy later hlater
      exact ⟨y, later, rfl, hy, hlater⟩
    obtain ⟨y, later, rfl, hy, hlater⟩ := parts xs h
    rcases List.mem_cons.mp hx with rfl | hx
    · rw [hy]
      exact List.mem_cons_self
    · exact List.mem_cons_of_mem _ (ih hlater hx)

/-- What is accepted of a list has a property that every accepted item has. -/
theorem Ensures.list {P : α → Prop} {check : Datum → Checked α} (h : ∀ d, Ensures (check d) P)
    (d : Datum) : Ensures (Checked.list check d) fun xs => ∀ x ∈ xs, P x := by
  have each (ds : List Datum) : ∀ start, ∀ outcome ∈ itemsFrom start check ds,
      Ensures outcome P := by
    induction ds with
    | nil => exact fun _ _ hmem => absurd hmem List.not_mem_nil
    | cons d rest ih =>
      intro start
      exact List.forall_mem_cons.mpr ⟨(h d).under, ih (start + 1)⟩
  intro xs accepted x hx
  unfold Checked.list at accepted
  split at accepted
  · exact each _ 0 _ (source_of_all accepted hx) x rfl
  · cases accepted

theorem ensures_entry (k : Scalar) (value : Checked α) :
    Ensures (entry k value) fun p => key k = .accepted p.1 ∧ value = .accepted p.2 := by
  refine .seq (.map ?_) (.under (.itself value))
  intro name hname a ha
  exact ⟨hname, ha⟩

/-- An accepted entry is what the check makes of the value of an entry with its key. -/
theorem source_of_entriesOf {check : Datum → Checked α} {es : List (Scalar × Datum)}
    {read : Entries α} (h : entriesOf (es.map fun p => (p.1, check p.2)) = .accepted read)
    {name : String} {a : α} (hp : (name, a) ∈ read) :
    ∃ k d, (k, d) ∈ es ∧ key k = .accepted name ∧ check d = .accepted a := by
  have listed : Ensures (entriesOf (es.map fun p => (p.1, check p.2))) fun read => ∀ p ∈ read,
      Checked.accepted p ∈ (es.map fun q => (q.1, check q.2)).map fun q => entry q.1 q.2 := by
    refine .map fun pairs hpairs p hp => ?_
    exact source_of_all hpairs (Entries.mem_ofList hp)
  have hmem := listed read h (name, a) hp
  rw [List.map_map] at hmem
  obtain ⟨⟨k, d⟩, hkd, hentry⟩ := List.mem_map.mp hmem
  obtain ⟨hkey, hcheck⟩ := ensures_entry k (check d) (name, a) hentry
  exact ⟨k, d, hkd, hkey, hcheck⟩

/-- What is accepted of a map has a property that every accepted value has. -/
theorem Ensures.values {P : α → Prop} {check : Datum → Checked α} (h : ∀ d, Ensures (check d) P)
    (d : Datum) : Ensures (Checked.entries check d) fun es => ∀ p ∈ es, P p.2 := by
  intro es accepted p hp
  cases d with
  | map fs =>
    obtain ⟨_, value, _, _, read⟩ := source_of_entriesOf accepted hp
    exact h value p.2 read
  | scalar | list | pair | set => cases accepted

end Sources

section Given

variable {α β : Type} {es : List (Scalar × Datum)} {key name found : String} {d : Datum}
  {check : Datum → Checked α} {a : α}

theorem map_eq_accepted {f : α → β} {outcome : Checked α} {b : β}
    (h : map f outcome = .accepted b) : ∃ a, outcome = .accepted a ∧ f a = b := by
  cases outcome with
  | accepted a => exact ⟨a, rfl, accepted.inj h⟩
  | refused faults => cases h
  | stopped obstacle => cases h

theorem andThen_eq_accepted {outcome : Checked α} {next : α → Checked β} {b : β}
    (h : outcome.andThen next = .accepted b) :
    ∃ a, outcome = .accepted a ∧ next a = .accepted b := by
  cases outcome with
  | accepted a => exact ⟨a, rfl, h⟩
  | refused faults => cases h
  | stopped obstacle => cases h

theorem map_accepted {f : α → β} {outcome : Checked α} (h : outcome = .accepted a) :
    f <$> outcome = .accepted (f a) := by
  rw [h]
  rfl

theorem seq_accepted {f : α → β} {first : Checked (α → β)} {second : Checked α}
    (hfirst : first = .accepted f) (hsecond : second = .accepted a) :
    first <*> second = .accepted (f a) := by
  rw [hfirst, hsecond]
  rfl

theorem field_of_given {absent : α} (hfound : field? es key name = some (found, d))
    (hcheck : check d = .accepted a) : field es key name absent check = .accepted a := by
  rw [field, hfound]
  simp only [hcheck]
  rfl

theorem nullable_of_accepted (given : d ≠ .null) (h : check d = .accepted a) :
    nullable check d = .accepted (some a) := by
  rw [nullable]
  · rw [h]
    rfl
  · exact given

theorem inTurn_accepted (f : α → β) (xs : List α) :
    inTurn (xs.map fun x => accepted (f x)) = .accepted (xs.map f) := by
  induction xs with
  | nil => rfl
  | cons x rest ih =>
    rw [List.map_cons, inTurn, ih]
    rfl

/-- A list is accepted as what each of its items is accepted as. -/
theorem list_accepted {f : α → Datum} {xs : List α} (h : ∀ x ∈ xs, check (f x) = .accepted x) :
    list check (.list (xs.map f)) = .accepted xs := by
  suffices ∀ start, all (itemsFrom start check (xs.map f)) = .accepted xs from this 0
  induction xs with
  | nil => exact fun start => rfl
  | cons x rest ih =>
    obtain ⟨first, later⟩ := List.forall_mem_cons.mp h
    intro start
    rw [List.map_cons, itemsFrom, all, ih later, first]
    rfl

theorem list_anything (xs : List Datum) : list anything (.list xs) = .accepted xs := by
  have each : list anything (.list (xs.map id)) = .accepted xs := list_accepted fun x _ => rfl
  rwa [List.map_id] at each

end Given

end RamlBridge.Checked

import RamlBridge.Validation.Field

/-!
What checks are stopped by. A check that is put together of others is stopped by what stops one of
them; the checks of texts, numbers and booleans are never stopped.
-/
namespace RamlBridge.Checked

def StopsOnly {α : Type} (outcome : Checked α) (P : Obstacle → Prop) : Prop :=
  ∀ o, outcome = .stopped o → P o

namespace StopsOnly

variable {α β : Type} {P : Obstacle → Prop}

theorem accepted (a : α) : StopsOnly (.accepted a) P := by
  intro o h
  cases h

theorem refused (faults : List Fault) : StopsOnly (.refused faults : Checked α) P := by
  intro o h
  cases h

theorem fault (kind : FaultKind) : StopsOnly (Checked.fault kind : Checked α) P :=
  refused _

theorem stopped {o : Obstacle} (h : P o) : StopsOnly (.stopped o : Checked α) P := by
  intro o' same
  cases same
  exact h

theorem map {f : α → β} {outcome : Checked α} (h : StopsOnly outcome P) :
    StopsOnly (f <$> outcome) P := by
  intro o same
  cases outcome with
  | accepted a => cases same
  | refused faults => cases same
  | stopped obstacle =>
    cases same
    exact h _ rfl

theorem seq {first : Checked (α → β)} {second : Checked α} (hfirst : StopsOnly first P)
    (hsecond : StopsOnly second P) : StopsOnly (first <*> second) P := by
  intro o same
  cases first with
  | stopped obstacle =>
    cases same
    exact hfirst _ rfl
  | accepted f =>
    cases second with
    | accepted a => cases same
    | refused faults => cases same
    | stopped obstacle =>
      cases same
      exact hsecond _ rfl
  | refused faults =>
    cases second with
    | accepted a => cases same
    | refused more => cases same
    | stopped obstacle =>
      cases same
      exact hsecond _ rfl

theorem andThen {outcome : Checked α} {next : α → Checked β} (h : StopsOnly outcome P)
    (step : ∀ a, outcome = .accepted a → StopsOnly (next a) P) :
    StopsOnly (outcome.andThen next) P := by
  intro o same
  cases outcome with
  | accepted a => exact step a rfl o same
  | refused faults => cases same
  | stopped obstacle =>
    cases same
    exact h _ rfl

theorem under {step : Step} {outcome : Checked α} (h : StopsOnly outcome P) :
    StopsOnly (Checked.under step outcome) P := by
  intro o same
  cases outcome with
  | accepted a => cases same
  | refused faults => cases same
  | stopped obstacle =>
    cases same
    exact h _ rfl

theorem all {outcomes : List (Checked α)} (h : ∀ x ∈ outcomes, StopsOnly x P) :
    StopsOnly (Checked.all outcomes) P := by
  induction outcomes with
  | nil => exact accepted _
  | cons x rest ih =>
    obtain ⟨first, later⟩ := List.forall_mem_cons.mp h
    exact (map first).seq (ih later)

theorem inTurn {outcomes : List (Checked α)} (h : ∀ x ∈ outcomes, StopsOnly x P) :
    StopsOnly (Checked.inTurn outcomes) P := by
  induction outcomes with
  | nil => exact accepted _
  | cons x rest ih =>
    obtain ⟨first, later⟩ := List.forall_mem_cons.mp h
    exact first.andThen fun _ _ => map (ih later)

theorem items {check : β → Checked α} {xs : List β} (h : ∀ x ∈ xs, StopsOnly (check x) P) :
    StopsOnly (Checked.items check xs) P := by
  suffices ∀ start, ∀ x ∈ itemsFrom start check xs, StopsOnly x P from all (this 0)
  induction xs with
  | nil =>
    intro start x hx
    cases hx
  | cons x rest ih =>
    obtain ⟨first, later⟩ := List.forall_mem_cons.mp h
    intro start
    exact List.forall_mem_cons.mpr ⟨first.under, ih later (start + 1)⟩

theorem encodable {t : String} {outcome : Checked α} (h : StopsOnly outcome P) :
    StopsOnly (Checked.encodable t outcome) P := by
  unfold Checked.encodable
  split
  · exact fault _
  · exact h

theorem nullable {check : Datum → Checked α} {d : Datum} (h : StopsOnly (check d) P) :
    StopsOnly (Checked.nullable check d) P := by
  unfold Checked.nullable
  split
  · exact accepted _
  · exact map h

theorem text (d : Datum) : StopsOnly (Checked.text d) P := by
  unfold Checked.text
  repeat' split
  all_goals first | exact accepted _ | exact fault _

theorem integerOfFloat (x : Binary64) : StopsOnly (Checked.integerOfFloat x) P := by
  unfold Checked.integerOfFloat
  repeat' split
  all_goals first | exact accepted _ | exact fault _

theorem integerOfText (t : Option String) : StopsOnly (Checked.integerOfText t) P := by
  unfold Checked.integerOfText
  split
  · exact fault _
  · apply encodable
    split
    · exact accepted _
    · exact fault _
    · exact fault _

theorem integer (d : Datum) : StopsOnly (Checked.integer d) P := by
  unfold Checked.integer
  split
  · exact accepted _
  · exact accepted _
  · exact integerOfFloat _
  · split
    · exact integerOfText _
    · exact fault _
  · exact fault _

theorem count (d : Datum) : StopsOnly (Checked.count d) P := by
  refine andThen (integer d) fun n _ => ?_
  split
  · exact accepted _
  · exact fault _

theorem booleanOfInteger (n : Int) : StopsOnly (Checked.booleanOfInteger n) P := by
  unfold Checked.booleanOfInteger
  repeat' split
  all_goals first | exact accepted _ | exact fault _

theorem booleanOfText (t : String) : StopsOnly (Checked.booleanOfText t) P := by
  apply encodable
  repeat' split
  all_goals first | exact accepted _ | exact fault _

theorem boolean (d : Datum) : StopsOnly (Checked.boolean d) P := by
  unfold Checked.boolean
  repeat' split
  all_goals
    first
    | exact accepted _
    | exact fault _
    | exact booleanOfInteger _
    | exact booleanOfText _

theorem list {check : Datum → Checked α} {d : Datum}
    (h : ∀ xs, listItems? d = some xs → ∀ x ∈ xs, StopsOnly (check x) P) :
    StopsOnly (Checked.list check d) P := by
  unfold Checked.list
  split
  · next xs found => exact items (h xs found)
  · exact fault _

theorem key (k : Scalar) : StopsOnly (Checked.key k) P :=
  under (under (text _))

theorem entriesOf {outcomes : List (Scalar × Checked α)}
    (h : ∀ p ∈ outcomes, StopsOnly p.2 P) : StopsOnly (Checked.entriesOf outcomes) P := by
  refine map (all ?_)
  intro outcome houtcome
  obtain ⟨p, hp, rfl⟩ := List.mem_map.mp houtcome
  exact (map (key p.1)).seq (h p hp).under

theorem entries {check : Datum → Checked α} {d : Datum}
    (h : ∀ es, d = .map es → ∀ p ∈ es, StopsOnly (check p.2) P) :
    StopsOnly (Checked.entries check d) P := by
  unfold Checked.entries
  split
  · next es =>
    refine entriesOf ?_
    intro q hq
    obtain ⟨p, hp, rfl⟩ := List.mem_map.mp hq
    exact h es rfl p hp
  · exact fault _

theorem field {es : List (Scalar × Datum)} {key name : String} {absent : α}
    {check : Datum → Checked α}
    (h : ∀ found d, field? es key name = some (found, d) → StopsOnly (check d) P) :
    StopsOnly (Checked.field es key name absent check) P := by
  unfold Checked.field
  split
  · next found d present => exact under (h found d present)
  · exact accepted _

theorem mandatory {es : List (Scalar × Datum)} {key name : String} {check : Datum → Checked α}
    (h : ∀ found d, field? es key name = some (found, d) → StopsOnly (check d) P) :
    StopsOnly (Checked.mandatory es key name check) P := by
  unfold Checked.mandatory
  split
  · next found d present => exact under (h found d present)
  · exact under (fault _)

theorem withUnknown {es : List (Scalar × Datum)} {unknown : List Fault} {outcome : Checked α}
    (h : StopsOnly outcome P) : StopsOnly (Checked.withUnknown es unknown outcome) P := by
  unfold Checked.withUnknown
  split
  · next o => exact stopped (h o rfl)
  · split
    · exact fault _
    · split
      · exact h
      · exact (map h).seq (refused _)

theorem fields (model : String) (d : Datum) : StopsOnly (Checked.fields model d) P := by
  unfold Checked.fields
  split
  · exact accepted _
  · exact fault _

end StopsOnly

end RamlBridge.Checked

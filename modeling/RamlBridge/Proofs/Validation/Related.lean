import Mathlib.Data.List.Forall2
import RamlBridge.Proofs.Entries
import RamlBridge.Validation.Field

/-!
Checks of two values side by side. The outcomes are related if both accept, and what they accept
is related, or if both find the same faults or meet the same obstacle. Every way of putting checks
together keeps outcomes related.
-/
namespace RamlBridge

def Keyed {κ α β : Type} (R : α → β → Prop) (p : κ × α) (q : κ × β) : Prop :=
  p.1 = q.1 ∧ R p.2 q.2

/-- Entries under the same keys in the same order, whose values are related. -/
abbrev Alike {κ α β : Type} (R : α → β → Prop) : List (κ × α) → List (κ × β) → Prop :=
  List.Forall₂ (Keyed R)

section Alike

variable {κ α β : Type} {R : α → β → Prop}

theorem Alike.keys {es : List (κ × α)} {fs : List (κ × β)} (h : Alike R es fs) :
    es.map Prod.fst = fs.map Prod.fst := by
  induction h with
  | nil => rfl
  | cons first _ ih => rw [List.map_cons, List.map_cons, first.1, ih]

theorem alike_refl {R : α → α → Prop} (refl : ∀ a, R a a) (es : List (κ × α)) : Alike R es es :=
  List.forall₂_same.mpr fun p _ => ⟨rfl, refl p.2⟩

theorem Alike.eq {es fs : List (κ × α)} (h : Alike Eq es fs) : es = fs := by
  induction h with
  | nil => rfl
  | cons first _ ih => rw [Prod.ext first.1 first.2, ih]

theorem alike_put {es : Entries α} {fs : Entries β} (h : Alike R es fs) (name : String) {a : α}
    {b : β} (hab : R a b) : Alike R (es.put name a) (fs.put name b) := by
  induction h with
  | nil => exact .cons ⟨rfl, hab⟩ .nil
  | @cons p q es fs first rest ih =>
    obtain ⟨n, v⟩ := p
    obtain ⟨m, w⟩ := q
    obtain ⟨rfl, hvw⟩ := first
    by_cases same : n = name
    · rw [Entries.put, if_pos same, Entries.put, if_pos same]
      exact .cons ⟨rfl, hab⟩ rest
    · rw [Entries.put, if_neg same, Entries.put, if_neg same]
      exact .cons ⟨rfl, hvw⟩ ih

theorem alike_ofList {es : Entries α} {fs : Entries β} (h : Alike R es fs) :
    Alike R (Entries.ofList es) (Entries.ofList fs) := by
  -- For any entries to start from, as those put first decide where the later ones go.
  suffices ∀ start start', Alike R start start' →
      Alike R (Entries.putAll start es) (Entries.putAll start' fs) from this [] [] .nil
  induction h with
  | nil => exact fun _ _ hstart => hstart
  | @cons p q es fs first _ ih =>
    obtain ⟨n, v⟩ := p
    obtain ⟨m, w⟩ := q
    obtain ⟨rfl, hvw⟩ := first
    exact fun start start' hstart => ih _ _ (alike_put hstart n hvw)

end Alike

namespace Datum

variable {R : Datum → Datum → Prop} {es fs : List (Scalar × Datum)}

theorem alike_putKey (h : Alike R es fs) (key : Scalar) {d e : Datum} (hde : R d e) :
    Alike R (putKey es key d) (putKey fs key e) := by
  induction h with
  | nil => exact .cons ⟨rfl, hde⟩ .nil
  | @cons p q es fs first rest ih =>
    obtain ⟨n, v⟩ := p
    obtain ⟨m, w⟩ := q
    obtain ⟨rfl, hvw⟩ := first
    by_cases same : n.sameKey key = true
    · rw [putKey, if_pos same, putKey, if_pos same]
      exact .cons ⟨rfl, hde⟩ rest
    · rw [putKey, if_neg same, putKey, if_neg same]
      exact .cons ⟨rfl, hvw⟩ ih

theorem alike_ofPairs (h : Alike R es fs) : Alike R (ofPairs es) (ofPairs fs) := by
  suffices ∀ start start', Alike R start start' →
      Alike R (es.foldl (fun entries p => putKey entries p.1 p.2) start)
        (fs.foldl (fun entries p => putKey entries p.1 p.2) start') from this [] [] .nil
  induction h with
  | nil => exact fun _ _ hstart => hstart
  | @cons p q es fs first _ ih =>
    obtain ⟨n, v⟩ := p
    obtain ⟨m, w⟩ := q
    obtain ⟨rfl, hvw⟩ := first
    exact fun start start' hstart => ih _ _ (alike_putKey hstart n hvw)

/-- Maps with the same keys whose values are related in a way that depends on the key. -/
abbrev ByKey (R : Scalar → Datum → Datum → Prop) :
    List (Scalar × Datum) → List (Scalar × Datum) → Prop :=
  List.Forall₂ fun p q => p.1 = q.1 ∧ R p.1 p.2 q.2

theorem ByKey.lookup? {R : Scalar → Datum → Datum → Prop} (h : ByKey R es fs) (name : String) :
    Option.Rel (R (.text name)) (lookup? es name) (lookup? fs name) := by
  induction h with
  | nil => exact .none
  | @cons p q es fs first _ ih =>
    obtain ⟨n, v⟩ := p
    obtain ⟨m, w⟩ := q
    obtain ⟨rfl, hvw⟩ := first
    by_cases same : n = .text name
    · rw [Datum.lookup?, if_pos same, Datum.lookup?, if_pos same]
      exact .some (same ▸ hvw)
    · rw [Datum.lookup?, if_neg same, Datum.lookup?, if_neg same]
      exact ih

inductive OneValue (key : Scalar) (d e : Datum) :
    List (Scalar × Datum) → List (Scalar × Datum) → Prop
  | mk (before after) :
    OneValue key d e (before ++ (key, d) :: after) (before ++ (key, e) :: after)

namespace OneValue

variable {key : Scalar} {d e : Datum}

theorem byKey {K : Scalar → Datum → Datum → Prop} (h : OneValue key d e es fs)
    (refl : ∀ k d, K k d d) (hde : K key d e) : ByKey K es fs := by
  have same (ps : List (Scalar × Datum)) : ByKey K ps ps :=
    List.forall₂_same.mpr fun p _ => ⟨rfl, refl p.1 p.2⟩
  cases h with
  | mk before after => exact List.rel_append (same before) (.cons ⟨rfl, hde⟩ (same after))

theorem alike (h : OneValue key d e es fs) (refl : ∀ d, R d d) (hde : R d e) : Alike R es fs :=
  h.byKey (K := fun _ => R) (fun _ => refl) hde

theorem ne_nil (h : OneValue key d e es fs) : es ≠ [] ∧ fs ≠ [] := by
  cases h with
  | mk before after =>
    exact ⟨List.append_ne_nil_of_right_ne_nil before (List.cons_ne_nil _ _),
      List.append_ne_nil_of_right_ne_nil before (List.cons_ne_nil _ _)⟩

end OneValue

end Datum

namespace Checked

/-- Outcomes that accept related values, or fail alike. -/
inductive Related {α β : Type} (R : α → β → Prop) : Checked α → Checked β → Prop
  | accepted {a b} : R a b → Related R (.accepted a) (.accepted b)
  | refused (faults) : Related R (.refused faults) (.refused faults)
  | stopped (obstacle) : Related R (.stopped obstacle) (.stopped obstacle)

namespace Related

variable {α β γ δ : Type} {R : α → β → Prop} {S : γ → δ → Prop}

theorem refl {R : α → α → Prop} (h : ∀ a, R a a) (x : Checked α) : Related R x x := by
  cases x with
  | accepted a => exact .accepted (h a)
  | refused faults => exact .refused faults
  | stopped obstacle => exact .stopped obstacle

theorem eq {x y : Checked α} (h : Related Eq x y) : x = y := by
  cases h with
  | accepted same => rw [same]
  | refused faults => rfl
  | stopped obstacle => rfl

theorem imp {R' : α → β → Prop} (step : ∀ a b, R a b → R' a b) {x : Checked α} {y : Checked β}
    (h : Related R x y) : Related R' x y := by
  cases h with
  | accepted hab => exact .accepted (step _ _ hab)
  | refused faults => exact .refused faults
  | stopped obstacle => exact .stopped obstacle

theorem map {f : α → γ} {g : β → δ} (step : ∀ a b, R a b → S (f a) (g b)) {x : Checked α}
    {y : Checked β} (h : Related R x y) : Related S (f <$> x) (g <$> y) := by
  cases h with
  | accepted hab => exact .accepted (step _ _ hab)
  | refused faults => exact .refused faults
  | stopped obstacle => exact .stopped obstacle

theorem seq {F : Checked (α → γ)} {G : Checked (β → δ)}
    (hfirst : Related (fun f g => ∀ a b, R a b → S (f a) (g b)) F G) {x : Checked α}
    {y : Checked β} (hsecond : Related R x y) : Related S (F <*> x) (G <*> y) := by
  cases hfirst with
  | accepted step =>
    cases hsecond with
    | accepted hab => exact .accepted (step _ _ hab)
    | refused faults => exact .refused faults
    | stopped obstacle => exact .stopped obstacle
  | refused faults =>
    cases hsecond with
    | accepted hab => exact .refused faults
    | refused more => exact .refused (faults ++ more)
    | stopped obstacle => exact .stopped obstacle
  | stopped obstacle => exact .stopped obstacle

theorem andThen {f : α → Checked γ} {g : β → Checked δ}
    (step : ∀ a b, R a b → Related S (f a) (g b)) {x : Checked α} {y : Checked β}
    (h : Related R x y) : Related S (x.andThen f) (y.andThen g) := by
  cases h with
  | accepted hab => exact step _ _ hab
  | refused faults => exact .refused faults
  | stopped obstacle => exact .stopped obstacle

theorem andThen_eq {f : α → Checked γ} {g : β → Checked γ} {x : Checked α} {y : Checked β}
    (h : Related (fun a b => f a = g b) x y) : x.andThen f = y.andThen g := by
  cases h with
  | accepted same => exact same
  | refused faults => rfl
  | stopped obstacle => rfl

theorem under (step : Step) {x : Checked α} {y : Checked β} (h : Related R x y) :
    Related R (Checked.under step x) (Checked.under step y) := by
  cases h with
  | accepted hab => exact .accepted hab
  | refused faults => exact .refused _
  | stopped obstacle => exact .stopped obstacle

theorem all {xs : List (Checked α)} {ys : List (Checked β)}
    (h : List.Forall₂ (Related R) xs ys) :
    Related (List.Forall₂ R) (Checked.all xs) (Checked.all ys) := by
  induction h with
  | nil => exact .accepted .nil
  | cons first _ ih =>
    refine seq (map ?_ first) ih
    intro a b hab as bs rest
    exact .cons hab rest

theorem inTurn {xs : List (Checked α)} {ys : List (Checked β)}
    (h : List.Forall₂ (Related R) xs ys) :
    Related (List.Forall₂ R) (Checked.inTurn xs) (Checked.inTurn ys) := by
  induction h with
  | nil => exact .accepted .nil
  | cons first _ ih =>
    refine andThen ?_ first
    intro a b hab
    exact map (fun as bs rest => .cons hab rest) ih

theorem items {check : γ → Checked α} {check' : δ → Checked β} {xs : List γ} {ys : List δ}
    (h : List.Forall₂ (fun x y => Related R (check x) (check' y)) xs ys) :
    Related (List.Forall₂ R) (Checked.items check xs) (Checked.items check' ys) := by
  suffices ∀ start, List.Forall₂ (Related R) (itemsFrom start check xs)
      (itemsFrom start check' ys) from all (this 0)
  induction h with
  | nil => exact fun _ => .nil
  | cons first _ ih => exact fun start => .cons (first.under _) (ih (start + 1))

theorem entry (k : Scalar) {x : Checked α} {y : Checked β} (h : Related R x y) :
    Related (Keyed R) (Checked.entry k x) (Checked.entry k y) := by
  refine seq (map ?_ (refl (fun _ => rfl) (key k))) (h.under _)
  intro name name' same a b hab
  exact ⟨same, hab⟩

theorem entriesOf {xs : List (Scalar × Checked α)} {ys : List (Scalar × Checked β)}
    (h : Alike (Related R) xs ys) :
    Related (Alike R) (Checked.entriesOf xs) (Checked.entriesOf ys) := by
  refine map (fun _ _ => alike_ofList) (all ?_)
  refine List.forall₂_map_left_iff.mpr (List.forall₂_map_right_iff.mpr (h.imp ?_))
  rintro ⟨k, x⟩ ⟨k', y⟩ ⟨rfl, hxy⟩
  exact hxy.entry k

/-- What checks make of maps with the same keys is related if it is for the values. -/
theorem values {check : Datum → Checked α} {check' : Datum → Checked β}
    {es fs : List (Scalar × Datum)} (h : Alike (fun d e => Related R (check d) (check' e)) es fs) :
    Related (Alike R) (Checked.entriesOf (es.map fun p => (p.1, check p.2)))
      (Checked.entriesOf (fs.map fun p => (p.1, check' p.2))) := by
  refine entriesOf (List.forall₂_map_left_iff.mpr (List.forall₂_map_right_iff.mpr (h.imp ?_)))
  exact fun p q same => same

/-- A field is related in two maps if its values under either of its names are. -/
theorem field {K : Scalar → Datum → Datum → Prop} {es fs : List (Scalar × Datum)}
    (h : Datum.ByKey K es fs) {key name : String} {absent : α} {absent' : β}
    (habsent : R absent absent') {check : Datum → Checked α} {check' : Datum → Checked β}
    (underKey : ∀ d e, K (.text key) d e → Related R (check d) (check' e))
    (underName : ∀ d e, K (.text name) d e → Related R (check d) (check' e)) :
    Related R (Checked.field es key name absent check)
      (Checked.field fs key name absent' check') := by
  have first := h.lookup? key
  have second := h.lookup? name
  unfold Checked.field Checked.field?
  generalize Datum.lookup? es key = d at first ⊢
  generalize Datum.lookup? fs key = e at first ⊢
  cases first with
  | some hde => exact (underKey _ _ hde).under _
  | none =>
    generalize Datum.lookup? es name = d' at second ⊢
    generalize Datum.lookup? fs name = e' at second ⊢
    cases second with
    | some hde => exact (underName _ _ hde).under _
    | none => exact .accepted habsent

theorem sameField {K : Scalar → Datum → Datum → Prop} {es fs : List (Scalar × Datum)}
    (h : Datum.ByKey K es fs) {key name : String} (absent : α) (check : Datum → Checked α)
    (underKey : ∀ d e, K (.text key) d e → d = e)
    (underName : ∀ d e, K (.text name) d e → d = e) :
    Related Eq (Checked.field es key name absent check)
      (Checked.field fs key name absent check) :=
  field h rfl (fun d e hde => underKey d e hde ▸ refl (fun _ => rfl) _)
    (fun d e hde => underName d e hde ▸ refl (fun _ => rfl) _)

end Related

/-- A field is read from what stands under its two names, and from nothing else. -/
theorem field_congr {α : Type} {es fs : List (Scalar × Datum)} {key name : String} {absent : α}
    {check : Datum → Checked α} (hkey : Datum.lookup? es key = Datum.lookup? fs key)
    (hname : Datum.lookup? es name = Datum.lookup? fs name) :
    field es key name absent check = field fs key name absent check := by
  unfold field field?
  rw [hkey, hname]

/-- What a check makes of a map depends on what it makes of the values. -/
theorem entriesOf_congr {α : Type} {check : Datum → Checked α} {es fs : List (Scalar × Datum)}
    (h : Alike (fun d e => check d = check e) es fs) :
    entriesOf (es.map fun p => (p.1, check p.2)) =
      entriesOf (fs.map fun p => (p.1, check p.2)) := by
  refine congrArg entriesOf ?_
  induction h with
  | nil => rfl
  | cons first _ ih => rw [List.map_cons, List.map_cons, ih, first.1, first.2]

theorem items_congr {α : Type} {check : Datum → Checked α} {ds es : List Datum}
    (h : List.Forall₂ (fun d e => check d = check e) ds es) : items check ds = items check es := by
  suffices ∀ start, itemsFrom start check ds = itemsFrom start check es from
    congrArg all (this 0)
  induction h with
  | nil => exact fun _ => rfl
  | cons first _ ih =>
    intro start
    rw [itemsFrom, itemsFrom, first, ih]

end Checked

end RamlBridge

import RamlBridge.Proofs.Entries

/-!
How outcomes are put together: of one step after another, and of one step for every member of a
list.
-/
namespace RamlBridge

variable {ε α β γ : Type}

@[simp] theorem ok_bind (a : α) (next : α → Except ε β) : (Except.ok a >>= next) = next a := rfl

@[simp] theorem error_bind (e : ε) (next : α → Except ε β) :
    ((Except.error e : Except ε α) >>= next) = .error e := rfl

@[simp] theorem map_ok (f : α → β) (a : α) : (Except.ok a : Except ε α).map f = .ok (f a) := rfl

@[simp] theorem map_error (f : α → β) (e : ε) :
    (Except.error e : Except ε α).map f = .error e := rfl

theorem bind_eq_ok {first : Except ε α} {next : α → Except ε β} {b : β}
    (h : (first >>= next) = .ok b) : ∃ a, first = .ok a ∧ next a = .ok b := by
  cases first with
  | error e => cases h
  | ok a => exact ⟨a, rfl, h⟩

theorem map_eq_ok {outcome : Except ε α} {f : α → β} {b : β} (h : outcome.map f = .ok b) :
    ∃ a, outcome = .ok a ∧ f a = b := by
  cases outcome with
  | error e => cases h
  | ok a =>
    cases h
    exact ⟨a, rfl, rfl⟩

inductive Ends (good : α → Prop) (bad : ε → Prop) : Except ε α → Prop
  | ok {a : α} : good a → Ends good bad (.ok a)
  | error {e : ε} : bad e → Ends good bad (.error e)

namespace Ends

variable {good : α → Prop} {fine : β → Prop} {bad : ε → Prop}

theorem bind {first : Except ε α} {next : α → Except ε β} (h : Ends good bad first)
    (step : ∀ a, good a → Ends fine bad (next a)) : Ends fine bad (first >>= next) := by
  cases h with
  | ok ha => exact step _ ha
  | error he => exact .error he

theorem map {outcome : Except ε α} {f : α → β} (h : Ends good bad outcome)
    (step : ∀ a, good a → fine (f a)) : Ends fine bad (outcome.map f) := by
  cases h with
  | ok ha => exact .ok (step _ ha)
  | error he => exact .error he

theorem result {outcome : Except ε α} (h : Ends good bad outcome) {a : α}
    (same : outcome = .ok a) : good a := by
  cases h with
  | ok ha => cases same; exact ha
  | error => cases same

theorem fault {outcome : Except ε α} (h : Ends good bad outcome) {e : ε}
    (same : outcome = .error e) : bad e := by
  cases h with
  | ok => cases same
  | error he => cases same; exact he

end Ends

/-- Outcomes with the same result, or with errors that are related. -/
inductive SameEnd {ε ε' α : Type} (E : ε → ε' → Prop) : Except ε α → Except ε' α → Prop
  | ok (a : α) : SameEnd E (.ok a) (.ok a)
  | error {e : ε} {e' : ε'} : E e e' → SameEnd E (.error e) (.error e')

namespace SameEnd

variable {ε' : Type} {E : ε → ε' → Prop}

/-- What comes after may rely on the result that both have. -/
theorem bind {first : Except ε α} {first' : Except ε' α} {next : α → Except ε β}
    {next' : α → Except ε' β} (h : SameEnd E first first')
    (step : ∀ a, first = .ok a → SameEnd E (next a) (next' a)) :
    SameEnd E (first >>= next) (first' >>= next') := by
  cases h with
  | ok a => exact step a rfl
  | error he => exact .error he

theorem map {outcome : Except ε α} {outcome' : Except ε' α} (h : SameEnd E outcome outcome')
    (f : α → β) : SameEnd E (outcome.map f) (outcome'.map f) := by
  cases h with
  | ok a => exact .ok (f a)
  | error he => exact .error he

theorem of_eq {outcome outcome' : Except ε α} (h : outcome = outcome') :
    SameEnd Eq outcome outcome' := by
  subst h
  cases outcome with
  | ok a => exact .ok a
  | error e => exact .error rfl

end SameEnd

theorem mapM_cons_eq (f : α → Except ε β) (x : α) (xs : List α) :
    (x :: xs).mapM f = f x >>= fun y => (xs.mapM f).map (y :: ·) := by
  rw [List.mapM_cons]
  cases f x with
  | error e => rfl
  | ok y => cases xs.mapM f <;> rfl

theorem mapM_cons_eq_ok {f : α → Except ε β} {x : α} {xs : List α} {zs : List β}
    (h : (x :: xs).mapM f = .ok zs) :
    ∃ y ys, f x = .ok y ∧ xs.mapM f = .ok ys ∧ zs = y :: ys := by
  rw [mapM_cons_eq] at h
  obtain ⟨y, hy, h⟩ := bind_eq_ok h
  obtain ⟨ys, hys, rfl⟩ := map_eq_ok h
  exact ⟨y, ys, hy, hys, rfl⟩

/-- What the results show is what the members show, in order. -/
theorem map_of_mapM {f : α → Except ε β} {shows : β → γ} {source : α → γ}
    (step : ∀ x y, f x = .ok y → shows y = source x) {xs : List α} {ys : List β}
    (h : xs.mapM f = .ok ys) : ys.map shows = xs.map source := by
  induction xs generalizing ys with
  | nil =>
    cases h
    rfl
  | cons x xs ih =>
    obtain ⟨y, rest, hy, hrest, rfl⟩ := mapM_cons_eq_ok h
    rw [List.map_cons, List.map_cons, step x y hy, ih hrest]

/-- Every result comes from a member. -/
theorem source_of_mapM {f : α → Except ε β} {xs : List α} {ys : List β} {y : β}
    (h : xs.mapM f = .ok ys) (hy : y ∈ ys) : ∃ x ∈ xs, f x = .ok y := by
  induction xs generalizing ys with
  | nil =>
    cases h
    cases hy
  | cons x xs ih =>
    obtain ⟨first, rest, hfirst, hrest, rfl⟩ := mapM_cons_eq_ok h
    rcases List.mem_cons.mp hy with rfl | later
    · exact ⟨x, List.mem_cons_self, hfirst⟩
    · obtain ⟨z, hz, same⟩ := ih hrest later
      exact ⟨z, List.mem_cons_of_mem _ hz, same⟩

/-- Every member gives a result. -/
theorem result_of_mapM {f : α → Except ε β} {xs : List α} {ys : List β}
    (h : xs.mapM f = .ok ys) {x : α} (hx : x ∈ xs) : ∃ y ∈ ys, f x = .ok y := by
  induction xs generalizing ys with
  | nil => cases hx
  | cons first xs ih =>
    obtain ⟨y, rest, hy, hrest, rfl⟩ := mapM_cons_eq_ok h
    rcases List.mem_cons.mp hx with rfl | later
    · exact ⟨y, List.mem_cons_self, hy⟩
    · obtain ⟨z, hz, made⟩ := ih hrest later
      exact ⟨z, List.mem_cons_of_mem y hz, made⟩

theorem ok_of_mapM {f : α → Except ε β} {xs : List α} {ys : List β} (h : xs.mapM f = .ok ys) :
    ∀ x ∈ xs, ∃ y, f x = .ok y := by
  intro x hx
  obtain ⟨y, _, made⟩ := result_of_mapM h hx
  exact ⟨y, made⟩

variable {ι : Type} {f : ι → Except ε β} {key : ι → String} {xs : List ι} {ys : Entries β}

theorem names_of_mapM (h : xs.mapM (fun x => (f x).map (key x, ·)) = .ok ys) :
    ys.names = xs.map key :=
  map_of_mapM (fun x y step => by obtain ⟨b, _, rfl⟩ := map_eq_ok step; rfl) h

/-- The last result under a name is what the last member under that name gives. -/
theorem last?_of_mapM (h : xs.mapM (fun x => (f x).map (key x, ·)) = .ok ys) (name : String) :
    (Entries.last? (xs.map fun x => (key x, x)) name).map f = (ys.last? name).map .ok := by
  induction xs generalizing ys with
  | nil =>
    cases h
    rfl
  | cons x xs ih =>
    obtain ⟨y, rest, hy, hrest, rfl⟩ := mapM_cons_eq_ok h
    obtain ⟨b, hb, rfl⟩ := map_eq_ok hy
    have later := ih hrest
    rw [List.map_cons, ← List.singleton_append, Entries.last?_append, Entries.last?_singleton,
      ← List.singleton_append, Entries.last?_append, Entries.last?_singleton]
    cases hlast : Entries.last? rest name with
    | some v =>
      rw [hlast] at later
      obtain ⟨z, hz, same⟩ := Option.map_eq_some_iff.mp later
      rw [hz, Option.some_or, Option.some_or, Option.map_some, Option.map_some, same]
    | none =>
      rw [hlast, Option.map_none, Option.map_eq_none_iff] at later
      rw [later, Option.none_or, Option.none_or]
      by_cases same : key x = name
      · rw [if_pos same, if_pos same, Option.map_some, Option.map_some, hb]
      · rw [if_neg same, if_neg same, Option.map_none, Option.map_none]

/-- The member that stands last under its name gives the value of that name. -/
theorem find?_of_mapM (h : xs.mapM (fun x => (f x).map (key x, ·)) = .ok ys)
    {before after : List ι} {x : ι} (split : xs = before ++ x :: after)
    (last : ∀ z ∈ after, key z ≠ key x) :
    ∃ b, f x = .ok b ∧ (Entries.ofList ys).find? (key x) = some b := by
  have apart : key x ∉ Entries.names (after.map fun z => (key z, z)) := by
    intro hmem
    obtain ⟨_, hpair, same⟩ := List.mem_map.mp hmem
    obtain ⟨z, hz, rfl⟩ := List.mem_map.mp hpair
    exact last z hz same
  have found := last?_of_mapM h (key x)
  rw [split, List.map_append, List.map_cons, Entries.last?_of_split apart, Option.map_some] at found
  obtain ⟨b, hb, same⟩ := Option.map_eq_some_iff.mp found.symm
  exact ⟨b, same.symm, (Entries.find?_ofList ys _).trans hb⟩

/-- A value under a name is what the last member under that name gives. -/
theorem source_of_find? (h : xs.mapM (fun x => (f x).map (key x, ·)) = .ok ys) {name : String}
    {b : β} (found : (Entries.ofList ys).find? name = some b) :
    ∃ x, Entries.last? (xs.map fun x => (key x, x)) name = some x ∧ f x = .ok b := by
  have same := last?_of_mapM h name
  rw [← Entries.find?_ofList ys, found, Option.map_some] at same
  exact Option.map_eq_some_iff.mp same

end RamlBridge

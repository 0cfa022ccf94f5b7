import RamlBridge.Entries

/-!
What setting entries in turn comes to: every name keeps the place where it first stood and the
value that it was last given.
-/
namespace RamlBridge

section FirstOccurrences

variable {α : Type} [DecidableEq α]

def addNew (seen : List α) (x : α) : List α :=
  if x ∈ seen then seen else seen ++ [x]

theorem firstOccurrences_eq_foldl (xs : List α) : firstOccurrences xs = xs.foldl addNew [] := rfl

theorem mem_addNew {seen : List α} {x y : α} : y ∈ addNew seen x ↔ y ∈ seen ∨ y = x := by
  by_cases h : x ∈ seen
  · simp only [addNew, if_pos h]
    exact ⟨Or.inl, fun hy => hy.elim id (fun same => same ▸ h)⟩
  · simp only [addNew, if_neg h, List.mem_append, List.mem_singleton]

theorem nodup_addNew {seen : List α} (h : seen.Nodup) (x : α) : (addNew seen x).Nodup := by
  by_cases hx : x ∈ seen
  · simpa only [addNew, if_pos hx] using h
  · simp only [addNew, if_neg hx]
    exact List.nodup_append.mpr ⟨h, List.pairwise_singleton _ x, fun a ha b hb same =>
      hx (List.mem_singleton.mp hb ▸ same ▸ ha)⟩

theorem mem_foldl_addNew {seen xs : List α} {y : α} :
    y ∈ xs.foldl addNew seen ↔ y ∈ seen ∨ y ∈ xs := by
  induction xs generalizing seen with
  | nil => simp only [List.foldl_nil, List.not_mem_nil, or_false]
  | cons x xs ih => rw [List.foldl_cons, ih, mem_addNew, List.mem_cons, or_assoc]

theorem nodup_foldl_addNew {seen : List α} (h : seen.Nodup) (xs : List α) :
    (xs.foldl addNew seen).Nodup := by
  induction xs generalizing seen with
  | nil => exact h
  | cons x xs ih => exact ih (nodup_addNew h x)

theorem mem_firstOccurrences {xs : List α} {y : α} : y ∈ firstOccurrences xs ↔ y ∈ xs := by
  rw [firstOccurrences_eq_foldl, mem_foldl_addNew]
  simp only [List.not_mem_nil, false_or]

theorem nodup_firstOccurrences (xs : List α) : (firstOccurrences xs).Nodup :=
  nodup_foldl_addNew List.nodup_nil xs

theorem foldl_addNew_sublist (seen xs : List α) :
    (xs.foldl addNew seen).Sublist (seen ++ xs) := by
  induction xs generalizing seen with
  | nil =>
    rw [List.append_nil]
    exact List.Sublist.refl seen
  | cons x xs ih =>
    rw [List.foldl_cons]
    apply (ih (addNew seen x)).trans
    by_cases known : x ∈ seen
    · rw [addNew, if_pos known]
      exact (List.Sublist.refl seen).append (List.sublist_cons_self x xs)
    · rw [addNew, if_neg known, List.append_assoc]
      exact List.Sublist.refl _

/-- The distinct members are as many as all of them only if none comes twice. -/
theorem nodup_of_length_firstOccurrences {xs : List α}
    (h : (firstOccurrences xs).length = xs.length) : xs.Nodup := by
  have same : firstOccurrences xs = xs := (foldl_addNew_sublist [] xs).eq_of_length h
  rw [← same]
  exact nodup_firstOccurrences xs

theorem foldl_addNew_of_nodup {seen xs : List α} (h : (seen ++ xs).Nodup) :
    xs.foldl addNew seen = seen ++ xs := by
  induction xs generalizing seen with
  | nil => exact (List.append_nil seen).symm
  | cons x xs ih =>
    have fresh : x ∉ seen := fun hx =>
      (List.nodup_append.mp h).2.2 x hx x List.mem_cons_self rfl
    have again : (seen ++ [x] ++ xs).Nodup := by
      rwa [List.append_assoc, List.singleton_append]
    rw [List.foldl_cons, addNew, if_neg fresh, ih again, List.append_assoc, List.singleton_append]

theorem firstOccurrences_of_nodup {xs : List α} (h : xs.Nodup) : firstOccurrences xs = xs :=
  foldl_addNew_of_nodup h

theorem firstOccurrences_eq_nil {xs : List α} : firstOccurrences xs = [] ↔ xs = [] := by
  simp only [List.eq_nil_iff_forall_not_mem, mem_firstOccurrences]

/-- The members of a list that were seen from the start or came before. -/
def repeatsAfter (seen : List α) : List α → List α
  | [] => []
  | x :: xs => (if x ∈ seen then [x] else []) ++ repeatsAfter (addNew seen x) xs

theorem repeatsAfter_append (seen xs ys : List α) :
    repeatsAfter seen (xs ++ ys) =
      repeatsAfter seen xs ++ repeatsAfter (xs.foldl addNew seen) ys := by
  induction xs generalizing seen with
  | nil => rfl
  | cons x xs ih =>
    rw [List.cons_append, repeatsAfter, repeatsAfter, ih, List.foldl_cons, List.append_assoc]

/-- Every member is new or a repeat. -/
theorem length_repeatsAfter (seen xs : List α) :
    (xs.foldl addNew seen).length + (repeatsAfter seen xs).length = seen.length + xs.length := by
  induction xs generalizing seen with
  | nil => rfl
  | cons x xs ih =>
    have later := ih (addNew seen x)
    rw [List.foldl_cons, repeatsAfter, List.length_append, List.length_cons]
    by_cases known : x ∈ seen
    · rw [addNew, if_pos known] at later ⊢
      rw [if_pos known, List.length_singleton]
      omega
    · rw [addNew, if_neg known, List.length_append, List.length_singleton] at later
      rw [addNew, if_neg known, if_neg known, List.length_nil]
      omega

theorem length_repeats (xs : List α) :
    (firstOccurrences xs).length + (repeatsAfter [] xs).length = xs.length := by
  rw [firstOccurrences_eq_foldl, length_repeatsAfter, List.length_nil, Nat.zero_add]

/-- There are no repeats if and only if no member comes twice. -/
theorem repeats_eq_nil_iff {xs : List α} : repeatsAfter [] xs = [] ↔ xs.Nodup := by
  have total := length_repeats xs
  constructor
  · intro none
    rw [none, List.length_nil, Nat.add_zero] at total
    exact nodup_of_length_firstOccurrences total
  · intro distinct
    rw [firstOccurrences_of_nodup distinct] at total
    exact List.eq_nil_of_length_eq_zero (by omega)

end FirstOccurrences

namespace Entries

variable {α β : Type}

def last? (entries : Entries α) (name : String) : Option α :=
  find? entries.reverse name

theorem names_put (entries : Entries α) (name : String) (value : α) :
    (entries.put name value).names = addNew entries.names name := by
  induction entries with
  | nil => rfl
  | cons p rest ih =>
    obtain ⟨n, v⟩ := p
    by_cases same : n = name
    · subst same
      simp only [put, names, addNew, if_true, List.map_cons, List.mem_cons, true_or]
    · have other : ¬ name = n := fun h => same h.symm
      simp only [put, if_neg same]
      change n :: names (put rest name value) = addNew (n :: names rest) name
      rw [ih]
      by_cases hmem : name ∈ names rest
      · simp only [addNew, List.mem_cons, hmem, or_true, if_true]
      · simp only [addNew, List.mem_cons, hmem, other, or_self, if_false, List.cons_append]

theorem names_putAll (entries overrides : Entries α) :
    (entries.putAll overrides).names = overrides.names.foldl addNew entries.names := by
  induction overrides generalizing entries with
  | nil => rfl
  | cons p rest ih =>
    have step := ih (entries.put p.1 p.2)
    rw [names_put] at step
    exact step

theorem names_ofList (pairs : List (String × α)) :
    (ofList pairs).names = firstOccurrences (names pairs) :=
  names_putAll [] pairs

theorem nodup_names_ofList (pairs : List (String × α)) : (ofList pairs).names.Nodup := by
  rw [names_ofList]
  exact nodup_firstOccurrences _

theorem putAll_append (entries first second : Entries α) :
    entries.putAll (first ++ second) = (entries.putAll first).putAll second :=
  List.foldl_append

theorem ofList_append (first second : List (String × α)) :
    ofList (first ++ second) = (ofList first).putAll second :=
  putAll_append [] first second

theorem put_of_not_mem {entries : Entries α} {name : String} (h : name ∉ entries.names)
    (value : α) : entries.put name value = entries ++ [(name, value)] := by
  induction entries with
  | nil => rfl
  | cons p rest ih =>
    obtain ⟨n, v⟩ := p
    have other : ¬ n = name := fun same => h (same ▸ List.mem_cons_self)
    simp only [put, if_neg other, List.cons_append]
    rw [ih fun hmem => h (List.mem_cons_of_mem _ hmem)]

theorem putAll_of_nodup {entries overrides : Entries α}
    (h : (entries.names ++ overrides.names).Nodup) :
    entries.putAll overrides = entries ++ overrides := by
  induction overrides generalizing entries with
  | nil => exact (List.append_nil entries).symm
  | cons p rest ih =>
    have fresh : p.1 ∉ entries.names := fun hp =>
      (List.nodup_append.mp h).2.2 p.1 hp p.1 List.mem_cons_self rfl
    change (entries.put p.1 p.2).putAll rest = entries ++ p :: rest
    rw [put_of_not_mem fresh, ih]
    · simp only [List.append_assoc, List.singleton_append]
    · simpa only [names, List.map_append, List.map_cons, List.map_nil, List.append_assoc,
        List.singleton_append] using h

/-- A name that is not set again stays in front with its value. -/
theorem putAll_cons_of_not_mem {name : String} {value : α} {entries overrides : Entries α}
    (h : name ∉ overrides.names) :
    putAll ((name, value) :: entries) overrides = (name, value) :: putAll entries overrides := by
  induction overrides generalizing entries with
  | nil => rfl
  | cons p rest ih =>
    have other : ¬ name = p.1 := fun same => h (same ▸ List.mem_cons_self)
    have step : put ((name, value) :: entries) p.1 p.2 = (name, value) :: put entries p.1 p.2 :=
      if_neg other
    have later : putAll ((name, value) :: put entries p.1 p.2) rest =
        (name, value) :: putAll (put entries p.1 p.2) rest :=
      ih fun hmem => h (List.mem_cons_of_mem _ hmem)
    rw [← step] at later
    exact later

/-- Entries of different names are what they denote. -/
theorem ofList_of_nodup {entries : Entries α} (h : entries.names.Nodup) :
    ofList entries = entries :=
  putAll_of_nodup h

theorem find?_put (entries : Entries α) (name other : String) (value : α) :
    (entries.put name value).find? other =
      if name = other then some value else entries.find? other := by
  induction entries with
  | nil => rfl
  | cons p rest ih =>
    obtain ⟨n, v⟩ := p
    by_cases same : n = name
    · subst same
      simp only [put, if_true, find?]
      by_cases h : n = other
      · simp only [if_pos h]
      · simp only [if_neg h]
    · simp only [put, if_neg same, find?, ih]
      by_cases h : n = other
      · have apart : ¬ name = other := fun e => same (h.trans e.symm)
        simp only [if_pos h, if_neg apart]
      · simp only [if_neg h]

/-- Setting a name to the value that it has changes nothing. -/
theorem put_of_find? {entries : Entries α} {name : String} {value : α}
    (h : entries.find? name = some value) : entries.put name value = entries := by
  induction entries with
  | nil => cases h
  | cons p rest ih =>
    obtain ⟨n, v⟩ := p
    by_cases same : n = name
    · simp only [find?, if_pos same, Option.some.injEq] at h
      simp only [put, if_pos same, h]
    · simp only [find?, if_neg same] at h
      simp only [put, if_neg same, ih h]

theorem find?_append (first second : Entries α) (name : String) :
    find? (first ++ second) name = (find? first name).or (find? second name) := by
  induction first with
  | nil => rfl
  | cons p rest ih =>
    obtain ⟨n, v⟩ := p
    by_cases h : n = name
    · simp only [List.cons_append, find?, if_pos h, Option.some_or]
    · simp only [List.cons_append, find?, if_neg h, ih]

theorem last?_append (first second : Entries α) (name : String) :
    last? (first ++ second) name = (last? second name).or (last? first name) := by
  rw [last?, List.reverse_append]
  exact find?_append _ _ _

theorem last?_singleton (name other : String) (value : α) :
    last? [(name, value)] other = if name = other then some value else none := rfl

theorem find?_map (f : String → α → β) (entries : Entries α) (name : String) :
    find? (entries.map fun p => (p.1, f p.1 p.2)) name = (entries.find? name).map (f name) := by
  induction entries with
  | nil => rfl
  | cons p rest ih =>
    obtain ⟨n, v⟩ := p
    by_cases h : n = name
    · subst h
      simp only [List.map_cons, find?, if_true, Option.map_some]
    · simp only [List.map_cons, find?, if_neg h, ih]

theorem last?_map (f : String → α → β) (entries : Entries α) (name : String) :
    last? (entries.map fun p => (p.1, f p.1 p.2)) name = (entries.last? name).map (f name) := by
  rw [last?, ← List.map_reverse]
  exact find?_map f entries.reverse name

theorem find?_putAll (entries overrides : Entries α) (name : String) :
    (entries.putAll overrides).find? name = (overrides.last? name).or (entries.find? name) := by
  induction overrides generalizing entries with
  | nil => rfl
  | cons p rest ih =>
    change ((entries.put p.1 p.2).putAll rest).find? name = _
    rw [ih, find?_put, ← List.singleton_append, last?_append, last?_singleton]
    cases last? rest name with
    | some v => rfl
    | none =>
      by_cases h : p.1 = name
      · simp only [if_pos h, Option.none_or, Option.some_or]
      · simp only [if_neg h, Option.none_or]

theorem find?_ofList (pairs : List (String × α)) (name : String) :
    (ofList pairs).find? name = last? pairs name := by
  rw [ofList, find?_putAll]
  exact Option.or_none

theorem names_append (first second : Entries α) :
    names (first ++ second) = first.names ++ second.names :=
  List.map_append

theorem names_mapValues (f : α → β) (entries : Entries α) :
    (entries.mapValues f).names = entries.names := by
  rw [names, mapValues, List.map_map]
  rfl

theorem find?_erase_of_ne {name other : String} (apart : other ≠ name) (entries : Entries α) :
    (entries.erase name).find? other = entries.find? other := by
  induction entries with
  | nil => rfl
  | cons p rest ih =>
    obtain ⟨n, v⟩ := p
    by_cases same : n = name
    · simpa [erase, find?, same, Ne.symm apart] using ih
    · by_cases here : n = other
      · simp [erase, find?, here, apart]
      · simpa [erase, find?, same, here] using ih

theorem not_mem_names_erase (entries : Entries α) (name : String) :
    name ∉ (entries.erase name).names := by
  intro h
  obtain ⟨p, hp, same⟩ := List.mem_map.mp h
  exact of_decide_eq_true (List.mem_filter.mp hp).2 same

theorem erase_of_not_mem {entries : Entries α} {name : String} (h : name ∉ entries.names) :
    entries.erase name = entries := by
  apply List.filter_eq_self.mpr
  intro p hp
  exact decide_eq_true fun same => h (same ▸ List.mem_map_of_mem hp)

theorem find?_eq_none {entries : Entries α} {name : String} :
    entries.find? name = none ↔ name ∉ entries.names := by
  induction entries with
  | nil => simp only [find?, names, List.map_nil, List.not_mem_nil, not_false_eq_true]
  | cons p rest ih =>
    obtain ⟨n, v⟩ := p
    by_cases h : n = name
    · simp only [find?, h, if_true, names, List.map_cons, List.mem_cons, true_or, not_true,
        reduceCtorEq]
    · have other : ¬ name = n := fun e => h e.symm
      simp only [find?, if_neg h, names, List.map_cons, List.mem_cons, other, false_or]
      exact ih

theorem contains_iff {entries : Entries α} {name : String} :
    entries.contains name = true ↔ name ∈ entries.names := by
  rw [contains, Option.isSome_iff_ne_none, Ne, find?_eq_none, Classical.not_not]

theorem last?_eq_none {entries : Entries α} {name : String} :
    entries.last? name = none ↔ name ∉ entries.names := by
  rw [last?, find?_eq_none, names, List.map_reverse, List.mem_reverse, names]

/-- The last value of a name is the one behind which the name does not come again. -/
theorem last?_of_split {before after : Entries α} {name : String} {value : α}
    (h : name ∉ after.names) : last? (before ++ (name, value) :: after) name = some value := by
  rw [last?_append, ← List.singleton_append, last?_append, last?_eq_none.mpr h, last?_singleton,
    if_pos rfl]
  rfl

theorem mem_of_find? {entries : Entries α} {name : String} {value : α}
    (h : entries.find? name = some value) : (name, value) ∈ entries := by
  induction entries with
  | nil => cases h
  | cons p rest ih =>
    obtain ⟨n, v⟩ := p
    by_cases same : n = name
    · simp only [find?, if_pos same, Option.some.injEq] at h
      rw [same, h]
      exact List.mem_cons_self
    · simp only [find?, if_neg same] at h
      exact List.mem_cons_of_mem _ (ih h)

theorem mem_put {entries : Entries α} {name : String} {value : α} {p : String × α}
    (h : p ∈ entries.put name value) : p ∈ entries ∨ p = (name, value) := by
  induction entries with
  | nil => exact Or.inr (List.mem_singleton.mp h)
  | cons q rest ih =>
    obtain ⟨n, v⟩ := q
    by_cases same : n = name
    · rw [put, if_pos same, same] at h
      rcases List.mem_cons.mp h with first | later
      · exact Or.inr first
      · exact Or.inl (List.mem_cons_of_mem _ later)
    · rw [put, if_neg same] at h
      rcases List.mem_cons.mp h with rfl | later
      · exact Or.inl List.mem_cons_self
      · exact (ih later).imp_left (List.mem_cons_of_mem _)

theorem mem_putAll {entries overrides : Entries α} {p : String × α}
    (h : p ∈ entries.putAll overrides) : p ∈ entries ∨ p ∈ overrides := by
  induction overrides generalizing entries with
  | nil => exact Or.inl h
  | cons q rest ih =>
    rcases ih h with before | later
    · rcases mem_put before with old | rfl
      · exact Or.inl old
      · exact Or.inr List.mem_cons_self
    · exact Or.inr (List.mem_cons_of_mem _ later)

/-- Nothing comes out that was not put in. -/
theorem mem_ofList {pairs : List (String × α)} {p : String × α} (h : p ∈ ofList pairs) :
    p ∈ pairs :=
  (mem_putAll h).elim (fun nothing => absurd nothing List.not_mem_nil) id

theorem find?_of_mem {entries : Entries α} {name : String} {value : α}
    (distinct : entries.names.Nodup) (h : (name, value) ∈ entries) :
    entries.find? name = some value := by
  induction entries with
  | nil => cases h
  | cons p rest ih =>
    have parts := List.nodup_cons.mp distinct
    rcases List.mem_cons.mp h with rfl | later
    · simp only [find?, if_true]
    · have other : ¬ p.1 = name := fun same =>
        parts.1 (same ▸ List.mem_map_of_mem later)
      simp only [find?, if_neg other]
      exact ih parts.2 later

theorem mem_of_last? {entries : Entries α} {name : String} {value : α}
    (h : entries.last? name = some value) : (name, value) ∈ entries :=
  List.mem_reverse.mp (mem_of_find? h)

/-- A property of the last values of all names. -/
theorem forall_mem_ofList {P : α → Prop} {entries : Entries α} :
    (∀ e ∈ ofList entries, P e.2) ↔ ∀ name value, entries.last? name = some value → P value := by
  constructor
  · intro each name value last
    exact each (name, value) (mem_of_find? ((find?_ofList entries name).trans last))
  · intro each e he
    have found := find?_of_mem (nodup_names_ofList entries) he
    exact each e.1 e.2 ((find?_ofList entries e.1).symm.trans found)

/-- A value in front that has a property makes no difference to whether all values have it. -/
theorem forall_mem_ofList_cons {P : α → Prop} {name : String} {value : α} (h : P value)
    {rest : Entries α} :
    (∀ e ∈ ofList ((name, value) :: rest), P e.2) ↔ ∀ e ∈ ofList rest, P e.2 := by
  simp only [forall_mem_ofList]
  rw [← List.singleton_append]
  simp only [last?_append, last?_singleton]
  refine forall₂_congr fun other v => ?_
  cases last? rest other with
  | some w => rfl
  | none =>
    by_cases same : name = other
    · simp only [if_pos same, Option.none_or, Option.some.injEq, reduceCtorEq, false_imp_iff,
        iff_true]
      rintro rfl
      exact h
    · simp [same]

theorem mem_of_last?_map {key : α → String} {xs : List α} {name : String} {x : α}
    (h : last? (xs.map fun x => (key x, x)) name = some x) : x ∈ xs := by
  obtain ⟨y, hy, same⟩ := List.mem_map.mp (mem_of_last? h)
  cases same
  exact hy

/-- Under distinct names, every value is the last one of its name. -/
theorem last?_of_mem {entries : Entries α} {name : String} {value : α}
    (distinct : entries.names.Nodup) (h : (name, value) ∈ entries) :
    entries.last? name = some value := by
  rw [← find?_ofList, ofList_of_nodup distinct]
  exact find?_of_mem distinct h

/-- Under distinct names, a value stays where it is when names are changed, if its own name is kept
and no other one becomes it. -/
theorem last?_of_renamed {entries : Entries α} {rename : String → String} (f : α → β)
    (distinct : entries.names.Nodup) {name : String} {value : α}
    (found : entries.find? name = some value) (kept : rename name = name)
    (alone : ∀ other ∈ entries.names, rename other = name → other = name) :
    last? (entries.map fun p => (rename p.1, f p.2)) name = some (f value) := by
  obtain ⟨before, after, split⟩ := List.append_of_mem (mem_of_find? found)
  rw [split, List.map_append, List.map_cons, kept]
  apply last?_of_split
  intro again
  obtain ⟨m, hm, same⟩ := List.mem_map.mp again
  obtain ⟨p, hp, rfl⟩ := List.mem_map.mp hm
  have given : p.1 ∈ entries.names := by
    rw [split]
    exact List.mem_map_of_mem (List.mem_append_right _ (List.mem_cons_of_mem _ hp))
  have later : name ∈ after.map Prod.fst := by
    rw [← alone p.1 given same]
    exact List.mem_map_of_mem hp
  rw [split, names, List.map_append, List.map_cons] at distinct
  exact (List.nodup_cons.mp (List.nodup_append.mp distinct).2.1).1 later

theorem names_append_const (before : Entries α) (seen : List String) (value : α) :
    names (before ++ seen.map (·, value)) = before.names ++ seen := by
  simp only [names, List.map_append, List.map_map]
  exact congrArg _ (List.map_id seen)

theorem putAll_const_from {before : Entries α} {seen others : List String} {value : α}
    (apart : ∀ name ∈ others, name ∉ before.names) :
    putAll (before ++ seen.map (·, value)) (others.map (·, value)) =
      before ++ (others.foldl addNew seen).map (·, value) := by
  induction others generalizing seen with
  | nil => rfl
  | cons name rest ih =>
    have new : name ∉ before.names := apart name List.mem_cons_self
    have step : put (before ++ seen.map (·, value)) name value =
        before ++ (addNew seen name).map (·, value) := by
      by_cases known : name ∈ seen
      · rw [addNew, if_pos known]
        have there : contains (before ++ seen.map (·, value)) name = true := by
          rw [contains_iff, names_append_const]
          exact List.mem_append_right _ known
        obtain ⟨v, found⟩ := Option.isSome_iff_exists.mp there
        refine put_of_find? (found.trans (congrArg some ?_))
        rcases List.mem_append.mp (mem_of_find? found) with declared | added
        · exact absurd (List.mem_map_of_mem declared) new
        · obtain ⟨_, _, same⟩ := List.mem_map.mp added
          exact (Prod.mk.inj same).2.symm
      · rw [addNew, if_neg known, put_of_not_mem]
        · simp only [List.map_append, List.map_cons, List.map_nil, List.append_assoc]
        · rw [names_append_const, List.mem_append, not_or]
          exact ⟨new, known⟩
    rw [List.foldl_cons, ← ih fun other h => apart other (List.mem_cons_of_mem _ h), ← step]
    rfl

/-- Setting names to one value sets each of them once, behind what was there before. -/
theorem putAll_const {before : Entries α} {others : List String} (value : α)
    (apart : ∀ name ∈ others, name ∉ before.names) :
    before.putAll (others.map (·, value)) =
      before ++ (firstOccurrences others).map (·, value) := by
  have start : before ++ ([] : List String).map (·, value) = before := List.append_nil before
  rw [firstOccurrences_eq_foldl, ← putAll_const_from apart, start]

end Entries

end RamlBridge

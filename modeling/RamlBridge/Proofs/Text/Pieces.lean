import RamlBridge.Text.Pieces

/-!
What texts are cut into at separators, and what is put together of pieces.
-/
namespace RamlBridge.Text

theorem cut_of_not_mem {separator : Char} {cs : List Char} (h : separator ∉ cs) :
    cut separator cs = (cs, none) := by
  induction cs with
  | nil => rfl
  | cons c rest ih =>
    have other : ¬ c = separator := fun same => h (same ▸ List.mem_cons_self)
    rw [cut, if_neg other, ih fun hmem => h (List.mem_cons_of_mem _ hmem)]

theorem cut_append {separator : Char} {before : List Char} (h : separator ∉ before)
    (after : List Char) : cut separator (before ++ separator :: after) = (before, some after) := by
  induction before with
  | nil => exact if_pos rfl
  | cons c rest ih =>
    have other : ¬ c = separator := fun same => h (same ▸ List.mem_cons_self)
    rw [List.cons_append, cut, if_neg other, ih fun hmem => h (List.mem_cons_of_mem _ hmem)]

/-- Characters that do not separate are added to what comes before the first separator. -/
theorem cut_append_of_not_mem {separator : Char} {before : List Char} (h : separator ∉ before)
    (after : List Char) : cut separator (before ++ after) =
      (before ++ (cut separator after).1, (cut separator after).2) := by
  induction before with
  | nil => rfl
  | cons c rest ih =>
    have other : ¬ c = separator := fun same => h (same ▸ List.mem_cons_self)
    rw [List.cons_append, cut, if_neg other, ih fun hmem => h (List.mem_cons_of_mem _ hmem)]
    rfl

/-- A text that is cut is put together of its parts again. -/
theorem eq_of_cut {separator : Char} {cs before after : List Char}
    (h : cut separator cs = (before, some after)) : cs = before ++ separator :: after := by
  induction cs generalizing before with
  | nil => cases h
  | cons c rest ih =>
    by_cases same : c = separator
    · rw [cut, if_pos same] at h
      cases h
      rw [same, List.nil_append]
    · rw [cut, if_neg same] at h
      obtain ⟨rfl, found⟩ := Prod.mk.inj h
      rw [List.cons_append, ← ih (Prod.ext rfl found)]

/-- Before the first separator stand characters of the text that do not separate. -/
theorem mem_fst_cut {separator c : Char} {cs : List Char} (h : c ∈ (cut separator cs).1) :
    c ∈ cs ∧ c ≠ separator := by
  induction cs with
  | nil => exact absurd h List.not_mem_nil
  | cons first rest ih =>
    by_cases same : first = separator
    · rw [cut, if_pos same] at h
      exact absurd h List.not_mem_nil
    · rw [cut, if_neg same] at h
      rcases List.mem_cons.mp h with rfl | later
      · exact ⟨List.mem_cons_self, same⟩
      · exact ⟨List.mem_cons_of_mem _ (ih later).1, (ih later).2⟩

theorem mem_snd_cut {separator c : Char} {cs : List Char}
    (h : c ∈ (cut separator cs).2.getD []) : c ∈ cs := by
  induction cs with
  | nil => exact absurd h List.not_mem_nil
  | cons first rest ih =>
    by_cases same : first = separator
    · rw [cut, if_pos same] at h
      exact List.mem_cons_of_mem _ h
    · rw [cut, if_neg same] at h
      exact List.mem_cons_of_mem _ (ih h)

theorem split_ne_nil (separator : Char) (cs : List Char) : split separator cs ≠ [] := by
  cases cs with
  | nil => exact List.cons_ne_nil _ _
  | cons c rest =>
    by_cases same : c = separator
    · rw [split, if_pos same]
      exact List.cons_ne_nil _ _
    · rw [split, if_neg same]
      cases split separator rest <;> exact List.cons_ne_nil _ _

/-- A character that does not separate belongs to the first piece of what follows. -/
theorem split_cons_of_ne {separator c : Char} (other : c ≠ separator) (rest : List Char) :
    ∃ piece pieces, split separator rest = piece :: pieces ∧
      split separator (c :: rest) = (c :: piece) :: pieces := by
  rw [split, if_neg other]
  cases h : split separator rest with
  | nil => exact absurd h (split_ne_nil separator rest)
  | cons piece pieces => exact ⟨piece, pieces, rfl, rfl⟩

theorem split_append_separator (separator : Char) (cs rest : List Char) :
    split separator (cs ++ separator :: rest) = split separator cs ++ split separator rest := by
  induction cs with
  | nil =>
    rw [List.nil_append]
    exact if_pos rfl
  | cons c cs ih =>
    by_cases same : c = separator
    · rw [List.cons_append, split, if_pos same, split, if_pos same, ih, List.cons_append]
    · obtain ⟨piece, pieces, before, all⟩ := split_cons_of_ne same (cs ++ separator :: rest)
      obtain ⟨first, others, head, whole⟩ := split_cons_of_ne same cs
      rw [ih, head, List.cons_append] at before
      cases before
      rw [List.cons_append, all, whole, List.cons_append]

theorem split_of_not_mem {separator : Char} {cs : List Char} (h : separator ∉ cs) :
    split separator cs = [cs] := by
  induction cs with
  | nil => rfl
  | cons c rest ih =>
    have other : c ≠ separator := fun same => h (same ▸ List.mem_cons_self)
    obtain ⟨piece, pieces, before, all⟩ := split_cons_of_ne other rest
    rw [ih fun hmem => h (List.mem_cons_of_mem _ hmem)] at before
    cases before
    exact all

/-- A text that is cut into one piece holds no separator. -/
theorem split_eq_singleton {separator : Char} {cs piece : List Char}
    (h : split separator cs = [piece]) : separator ∉ cs ∧ cs = piece := by
  by_cases hmem : separator ∈ cs
  · obtain ⟨before, after, rfl⟩ := List.append_of_mem hmem
    have two := congrArg List.length h
    have first := List.length_pos_iff.mpr (split_ne_nil separator before)
    have second := List.length_pos_iff.mpr (split_ne_nil separator after)
    rw [split_append_separator, List.length_append, List.length_singleton] at two
    omega
  · rw [split_of_not_mem hmem] at h
    exact ⟨hmem, List.singleton_inj.mp h⟩

/-- The pieces of a text hold its characters but for the separators. -/
theorem mem_of_mem_split {separator c : Char} {cs piece : List Char}
    (h : piece ∈ split separator cs) (hc : c ∈ piece) : c ∈ cs ∧ c ≠ separator := by
  induction cs generalizing piece with
  | nil =>
    rw [List.mem_singleton.mp h] at hc
    exact absurd hc List.not_mem_nil
  | cons first rest ih =>
    have inRest {piece : List Char} (h : piece ∈ split separator rest) (hc : c ∈ piece) :
        c ∈ first :: rest ∧ c ≠ separator :=
      ⟨List.mem_cons_of_mem _ (ih h hc).1, (ih h hc).2⟩
    by_cases same : first = separator
    · rw [split, if_pos same] at h
      rcases List.mem_cons.mp h with rfl | h
      · exact absurd hc List.not_mem_nil
      · exact inRest h hc
    · obtain ⟨head, pieces, before, all⟩ := split_cons_of_ne same rest
      rw [all] at h
      rcases List.mem_cons.mp h with rfl | later
      · rcases List.mem_cons.mp hc with rfl | hc
        · exact ⟨List.mem_cons_self, same⟩
        · exact inRest (before ▸ List.mem_cons_self) hc
      · exact inRest (before ▸ List.mem_cons_of_mem _ later) hc

theorem afterLast_mem_split (separator : Char) (cs : List Char) :
    afterLast separator cs ∈ split separator cs := by
  rw [afterLast, List.getLastD_eq_getLast?, List.getLast?_eq_some_getLast (split_ne_nil _ _)]
  exact List.getLast_mem _

theorem mem_of_mem_afterLast {separator c : Char} {cs : List Char}
    (h : c ∈ afterLast separator cs) : c ∈ cs :=
  (mem_of_mem_split (afterLast_mem_split separator cs) h).1

theorem not_mem_afterLast (separator : Char) (cs : List Char) :
    separator ∉ afterLast separator cs :=
  fun h => (mem_of_mem_split (afterLast_mem_split separator cs) h).2 rfl

theorem afterLast_of_not_mem {separator : Char} {cs : List Char} (h : separator ∉ cs) :
    afterLast separator cs = cs := by
  rw [afterLast, split_of_not_mem h]
  rfl

/-- What comes before a separator has no part in what follows the last one. -/
theorem afterLast_append_separator (separator : Char) (before after : List Char) :
    afterLast separator (before ++ separator :: after) = afterLast separator after := by
  obtain ⟨piece, pieces, same⟩ := List.exists_cons_of_ne_nil (split_ne_nil separator after)
  rw [afterLast, afterLast, split_append_separator, same]
  simp [List.getLastD_eq_getLast?, List.getLast?_cons]

theorem exists_last_of_mem {c : Char} {cs : List Char} (h : c ∈ cs) :
    ∃ before after, cs = before ++ c :: after ∧ c ∉ after := by
  obtain ⟨after, before, reversed, first⟩ := List.eq_append_cons_of_mem (List.mem_reverse.mpr h)
  refine ⟨before.reverse, after.reverse, ?_, fun hc => first (List.mem_reverse.mp hc)⟩
  simpa using congrArg List.reverse reversed

theorem afterLast_suffix (separator : Char) (cs : List Char) : afterLast separator cs <:+ cs := by
  by_cases parted : separator ∈ cs
  · obtain ⟨before, after, rfl, last⟩ := exists_last_of_mem parted
    rw [afterLast_append_separator, afterLast_of_not_mem last]
    exact ⟨before ++ [separator], by simp⟩
  · exact ⟨[], by rw [List.nil_append, afterLast_of_not_mem parted]⟩

/-- Characters that do not separate are added to what follows the last separator. -/
theorem afterLast_append {separator : Char} (before : List Char) {after : List Char}
    (h : separator ∉ after) :
    afterLast separator (before ++ after) = afterLast separator before ++ after := by
  by_cases parted : separator ∈ before
  · obtain ⟨front, back, rfl, last⟩ := exists_last_of_mem parted
    have none : separator ∉ back ++ after := by simp [last, h]
    rw [List.append_assoc, List.cons_append, afterLast_append_separator,
      afterLast_append_separator, afterLast_of_not_mem none, afterLast_of_not_mem last]
  · have none : separator ∉ before ++ after := by simp [parted, h]
    rw [afterLast_of_not_mem none, afterLast_of_not_mem parted]

/-- A character stands behind the last separator just if no separator stands behind it. -/
theorem mem_afterLast_iff {separator c : Char} {cs : List Char} :
    c ∈ afterLast separator cs ↔
      ∃ before after, cs = before ++ c :: after ∧ separator ∉ c :: after := by
  constructor
  · intro h
    obtain ⟨before, same⟩ := afterLast_suffix separator cs
    obtain ⟨front, back, parts⟩ := List.append_of_mem h
    refine ⟨before ++ front, back, ?_, fun hs => not_mem_afterLast separator cs ?_⟩
    · rw [← same, parts, List.append_assoc]
    · rw [parts]
      exact List.mem_append_right front hs
  · rintro ⟨before, after, rfl, last⟩
    rw [afterLast_append before last]
    exact List.mem_append_right _ List.mem_cons_self

/-- Nothing follows the last separator just if the text ends with it. -/
theorem afterLast_eq_nil_iff {separator : Char} {cs : List Char} (given : cs ≠ []) :
    afterLast separator cs = [] ↔ cs.getLast? = some separator := by
  rw [List.getLast?_eq_some_iff]
  constructor
  · intro h
    have parted : separator ∈ cs :=
      Decidable.not_not.mp fun whole => given ((afterLast_of_not_mem whole).symm.trans h)
    obtain ⟨before, after, rfl, last⟩ := exists_last_of_mem parted
    rw [afterLast_append_separator, afterLast_of_not_mem last] at h
    exact ⟨before, by rw [h]⟩
  · rintro ⟨before, rfl⟩
    rw [afterLast_append_separator]
    rfl

theorem split_join {separator : Char} {pieces : List (List Char)} (given : pieces ≠ [])
    (h : ∀ piece ∈ pieces, separator ∉ piece) :
    split separator (join separator pieces) = pieces := by
  induction pieces with
  | nil => exact absurd rfl given
  | cons piece pieces ih =>
    have first := split_of_not_mem (h piece List.mem_cons_self)
    cases pieces with
    | nil => exact first
    | cons second others =>
      have later := ih (List.cons_ne_nil second others) fun p hp => h p (List.mem_cons_of_mem _ hp)
      rw [join, split_append_separator, first, later, List.singleton_append]
      exact fun nothing => List.cons_ne_nil _ _ nothing

theorem mem_join {separator c : Char} {pieces : List (List Char)}
    (h : c ∈ join separator pieces) : c = separator ∨ ∃ piece ∈ pieces, c ∈ piece := by
  induction pieces with
  | nil => exact absurd h List.not_mem_nil
  | cons piece pieces ih =>
    cases pieces with
    | nil => exact Or.inr ⟨piece, List.mem_cons_self, h⟩
    | cons second others =>
      rw [join, List.mem_append, List.mem_cons] at h
      · rcases h with first | same | later
        · exact Or.inr ⟨piece, List.mem_cons_self, first⟩
        · exact Or.inl same
        · rcases ih later with same | ⟨p, hp, hc⟩
          · exact Or.inl same
          · exact Or.inr ⟨p, List.mem_cons_of_mem _ hp, hc⟩
      · exact fun nothing => List.cons_ne_nil _ _ nothing

end RamlBridge.Text

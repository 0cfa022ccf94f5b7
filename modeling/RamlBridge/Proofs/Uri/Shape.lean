import RamlBridge.Proofs.Uri.Written

/-!
The shape of absolute URLs. A path has it only where its first names are a scheme with a colon and
nothing that counts.
-/
namespace RamlBridge.Uri

variable {d text : String}

def counted (cs : List Char) : List Char := cs.filter (!isBlank ·)

theorem eq_of_splitScheme {cs name after : List Char} (h : splitScheme cs = some (name, after)) :
    cs = name ++ ':' :: after := by
  unfold splitScheme at h
  split at h
  · next c rest found hcut =>
    split at h
    · cases h
      exact Text.eq_of_cut hcut
    · cases h
  · cases h

theorem eq_of_splitAuthority {cs authority rest : List Char}
    (h : splitAuthority cs = (authority, rest)) (given : authority ≠ []) :
    ∃ after, cs = '/' :: '/' :: after := by
  unfold splitAuthority at h
  split at h
  · exact ⟨_, rfl⟩
  · cases h
    exact absurd rfl given

/-- An absolute URL has a scheme, with a colon and two slashes behind it. -/
theorem shape_of_parse {uri : Uri} (h : parse text = some uri) (named : uri.scheme ≠ "")
    (given : uri.authority ≠ "") :
    ∃ scheme after, IsScheme scheme ∧
      counted (text.toList.dropWhile (·.toNat ≤ 0x20)) = scheme ++ ':' :: '/' :: '/' :: after := by
  simp only [parse, parseWith] at h
  change ∃ scheme after, _ ∧ List.filter _ (List.dropWhile _ text.toList) = _
  generalize hcs : (List.filter _ (List.dropWhile _ text.toList)) = cs at h
  have same : List.filter (!isBlank ·) (text.toList.dropWhile (·.toNat ≤ 0x20)) = cs := hcs
  cases hscheme : splitScheme cs with
  | none =>
    simp only [hscheme] at h
    split at h
    · cases h
      exact absurd rfl named
    · cases h
  | some parts =>
    obtain ⟨name, rest⟩ := parts
    cases hauthority : splitAuthority rest with
    | mk authority path =>
      simp only [hscheme, hauthority] at h
      split at h
      · cases h
        have letters : authority ≠ [] := fun empty => given (by rw [empty])
        obtain ⟨after, slashes⟩ := eq_of_splitAuthority hauthority letters
        exact ⟨name, after, (splitScheme_eq_some hscheme).1,
          by rw [same, eq_of_splitScheme hscheme, slashes]⟩
      · cases h

theorem shape_of_isUrl (h : isUrl text = true) :
    ∃ scheme after, IsScheme scheme ∧
      counted (text.toList.dropWhile (·.toNat ≤ 0x20)) = scheme ++ ':' :: '/' :: '/' :: after := by
  unfold isUrl at h
  split at h
  · next uri parsed =>
    rw [Bool.and_eq_true, bne_iff_ne, bne_iff_ne] at h
    exact shape_of_parse parsed h.1 h.2
  · cases h

theorem mem_of_mem_counted {cs : List Char} {c : Char} (h : c ∈ counted cs) : c ∈ cs :=
  (List.mem_filter.mp h).1

theorem isUrl_name (noSlash : '/' ∉ d.toList) : isUrl d = false := by
  apply Bool.eq_false_iff.mpr
  intro url
  obtain ⟨scheme, after, _, shape⟩ := shape_of_isUrl url
  have slash : '/' ∈ counted (d.toList.dropWhile (·.toNat ≤ 0x20)) := by simp [shape]
  exact noSlash ((List.dropWhile_sublist _).subset (mem_of_mem_counted slash))

theorem dropWhile_below (d rest : List Char) :
    (d ++ '/' :: rest).dropWhile (fun c : Char => c.toNat ≤ 0x20) =
      d.dropWhile (fun c : Char => c.toNat ≤ 0x20) ++ '/' :: rest := by
  rw [List.dropWhile_append]
  split
  · next none =>
    rw [List.isEmpty_iff.mp none]
    rfl
  · rfl

/-- A name that ends in a colon is the scheme of a URL only if a second slash follows. -/
theorem isUrl_below (noSlash : '/' ∉ d.toList)
    (apart : (counted d.toList).getLast? = some ':' → (counted text.toList).head? ≠ some '/') :
    isUrl (d ++ "/" ++ text) = false := by
  have chars : (d ++ "/" ++ text).toList = d.toList ++ '/' :: text.toList := by simp
  apply Bool.eq_false_iff.mpr
  intro url
  obtain ⟨scheme, after, isScheme, shape⟩ := shape_of_isUrl url
  obtain ⟨front, kept⟩ := List.dropWhile_suffix (l := d.toList) (fun c : Char => c.toNat ≤ 0x20)
  rw [chars, dropWhile_below] at shape
  generalize List.dropWhile _ d.toList = name at kept shape
  have split :
      counted (name ++ '/' :: text.toList) = counted name ++ '/' :: counted text.toList := by
    simp [counted, isBlank]
  have noSlashName : '/' ∉ counted name := by
    intro slash
    exact noSlash (kept ▸ List.mem_append_right front (mem_of_mem_counted slash))
  have noSlashScheme : '/' ∉ scheme ++ [':'] := by
    intro slash
    rcases List.mem_append.mp slash with inScheme | colon
    · exact ne_of_isSchemeChar (isScheme.each inScheme) (by decide) rfl
    · cases List.mem_singleton.mp colon
  -- both sides are cut at their first slash
  have parts := congrArg (Text.cut '/') (split.symm.trans shape)
  rw [Text.cut_append noSlashName, List.append_cons, Text.cut_append noSlashScheme] at parts
  obtain ⟨ending, beginning⟩ := Prod.mk.inj parts
  refine apart ?_ ?_
  · rw [← kept, counted, List.filter_append]
    change (_ ++ counted name).getLast? = _
    rw [ending, ← List.append_assoc, List.getLast?_concat]
  · rw [Option.some.inj beginning]
    rfl

end RamlBridge.Uri

import RamlBridge.Proofs.Text.Pieces
import RamlBridge.Uri.Basic

/-!
A URI without parameters, query and fragment that is written from its parts is read into them
again.
-/
namespace RamlBridge.Uri

/-- The text of a URI that has a scheme, an authority and a path only. -/
def written (scheme authority path : List Char) : List Char :=
  scheme ++ ':' :: '/' :: '/' :: (authority ++ path)

def isBlank (c : Char) : Bool :=
  c == '\t' || c == '\r' || c == '\n'

def IsScheme (name : List Char) : Prop :=
  ∃ c rest, name = c :: rest ∧ isAsciiLetter c = true ∧ rest.all isSchemeChar = true

/-- Parts that a URI can be written from. The path begins and ends with a slash. -/
structure Writable (scheme authority path : List Char) : Prop where
  isScheme : IsScheme scheme
  isAuthority : isAuthority authority = true
  inAuthority : ∀ c ∈ authority, c ≠ '/' ∧ c ≠ '?' ∧ c ≠ '#' ∧ isBlank c = false
  rooted : ∃ segments, path = '/' :: (segments ++ ['/'])
  inPath : ∀ c ∈ path, c ≠ '?' ∧ c ≠ '#' ∧ isBlank c = false

theorem isSchemeChar_of_letter {c : Char} (h : isAsciiLetter c = true) : isSchemeChar c = true := by
  have alphanum : c.isAlphanum = true := by
    rw [Char.isAlphanum, show c.isAlpha = true from h, Bool.true_or]
  simp only [isSchemeChar, alphanum, Bool.true_or]

theorem IsScheme.each {name : List Char} (h : IsScheme name) {c : Char} (hc : c ∈ name) :
    isSchemeChar c = true := by
  obtain ⟨first, rest, rfl, letter, others⟩ := h
  rcases List.mem_cons.mp hc with rfl | hc
  · exact isSchemeChar_of_letter letter
  · exact List.all_eq_true.mp others c hc

theorem ne_of_isSchemeChar {c other : Char} (h : isSchemeChar c = true)
    (hother : isSchemeChar other = false) : c ≠ other := by
  rintro rfl
  exact Bool.false_ne_true (hother.symm.trans h)

theorem isBlank_of_isSchemeChar {c : Char} (h : isSchemeChar c = true) : isBlank c = false := by
  simp only [isBlank, Bool.or_eq_false_iff, beq_eq_false_iff_ne]
  exact ⟨⟨ne_of_isSchemeChar h (by decide), ne_of_isSchemeChar h (by decide)⟩,
    ne_of_isSchemeChar h (by decide)⟩

theorem splitScheme_append {name : List Char} (h : IsScheme name) (after : List Char) :
    splitScheme (name ++ ':' :: after) = some (name, after) := by
  have noColon : ':' ∉ name := fun hmem => ne_of_isSchemeChar (h.each hmem) (by decide) rfl
  obtain ⟨c, rest, rfl, letter, others⟩ := h
  rw [splitScheme, Text.cut_append noColon]
  simp only [letter, others, Bool.and_self, if_true]

theorem splitScheme_eq_some {cs name after : List Char}
    (h : splitScheme cs = some (name, after)) :
    IsScheme name ∧ ∀ c ∈ after, c ∈ cs := by
  unfold splitScheme at h
  split at h
  · next c rest found hcut =>
    split at h
    · next valid =>
      cases h
      rw [Bool.and_eq_true] at valid
      refine ⟨⟨c, rest, rfl, valid.1, valid.2⟩, fun x hx => ?_⟩
      have inCut : x ∈ (Text.cut ':' cs).2.getD [] := by rwa [hcut]
      exact Text.mem_snd_cut inCut
    · cases h
  · cases h

theorem splitAuthority_written {authority path : List Char}
    (ends : ∀ c ∈ authority, c ≠ '/' ∧ c ≠ '?' ∧ c ≠ '#') :
    splitAuthority ('/' :: '/' :: (authority ++ '/' :: path)) = (authority, '/' :: path) := by
  have inside : ∀ c ∈ authority, (!(c == '/' || c == '?' || c == '#')) = true := by
    intro c hc
    obtain ⟨slash, query, fragment⟩ := ends c hc
    simp only [beq_false_of_ne slash, beq_false_of_ne query, beq_false_of_ne fragment,
      Bool.or_self, Bool.not_false]
  simp only [splitAuthority, List.takeWhile_append_of_pos inside,
    List.dropWhile_append_of_pos inside]
  rw [List.takeWhile_cons_of_neg (by decide), List.dropWhile_cons_of_neg (by decide),
    List.append_nil]

theorem splitParameters_of_slash (cs : List Char) :
    splitParameters (cs ++ ['/']) = (cs ++ ['/'], []) := by
  have last : Text.afterLast '/' (cs ++ ['/']) = [] := by
    rw [Text.afterLast, Text.split_append_separator]
    exact List.getLastD_concat
  simp only [splitParameters, last]
  rfl

theorem filter_notBlank {cs : List Char} (h : ∀ c ∈ cs, isBlank c = false) :
    (cs.filter fun c => !(c == '\t' || c == '\r' || c == '\n')) = cs := by
  refine List.filter_eq_self.mpr fun c hc => ?_
  rw [Bool.not_eq_true']
  exact h c hc

theorem toNat_of_letter {c : Char} (h : isAsciiLetter c = true) : ¬ c.toNat ≤ 0x20 := by
  intro blank
  have least : 65 ≤ c.toNat := by
    rcases (Bool.or_eq_true _ _).mp h with upper | lower
    · have bounds : 'A'.val ≤ c.val ∧ c.val ≤ 'Z'.val := of_decide_eq_true upper
      exact UInt32.le_iff_toNat_le.mp bounds.1
    · have bound : 'a'.val ≤ c.val := of_decide_eq_true ((Bool.and_eq_true _ _).mp lower).1
      have above : 97 ≤ c.toNat := UInt32.le_iff_toNat_le.mp bound
      omega
  omega

theorem Writable.notBlank {scheme authority path : List Char} (h : Writable scheme authority path) :
    ∀ c ∈ written scheme authority path, isBlank c = false := by
  intro c hc
  simp only [written, List.mem_append, List.mem_cons] at hc
  rcases hc with inScheme | rfl | rfl | rfl | inAuthority | inPath
  · exact isBlank_of_isSchemeChar (h.isScheme.each inScheme)
  · rfl
  · rfl
  · rfl
  · exact (h.inAuthority c inAuthority).2.2.2
  · exact (h.inPath c inPath).2.2

theorem dropWhile_written {scheme : List Char} (h : IsScheme scheme) (authority path : List Char) :
    (written scheme authority path).dropWhile (·.toNat ≤ 0x20) = written scheme authority path := by
  obtain ⟨c, rest, rfl, letter, _⟩ := h
  refine List.dropWhile_cons_of_neg ?_
  rw [decide_eq_true_iff]
  exact toNat_of_letter letter

/-- What is written from parts is read into them, the scheme in lower case. -/
theorem parse_written {scheme authority path : List Char} (h : Writable scheme authority path) :
    parse (String.ofList (written scheme authority path)) =
      some ⟨String.ofList (scheme.map Char.toLower), String.ofList authority,
        String.ofList path, "", "", ""⟩ := by
  obtain ⟨segments, same⟩ := h.rooted
  have authorityRead : splitAuthority ('/' :: '/' :: (authority ++ path)) = (authority, path) := by
    rw [same]
    refine splitAuthority_written fun c hc => ?_
    obtain ⟨slash, query, fragment, _⟩ := h.inAuthority c hc
    exact ⟨slash, query, fragment⟩
  have schemeRead := splitScheme_append h.isScheme ('/' :: '/' :: (authority ++ path))
  have noFragment : Text.cut '#' path = (path, none) :=
    Text.cut_of_not_mem fun hmem => (h.inPath _ hmem).2.1 rfl
  have noQuery : Text.cut '?' path = (path, none) :=
    Text.cut_of_not_mem fun hmem => (h.inPath _ hmem).1 rfl
  have noParameters : splitParameters path = (path, []) :=
    same ▸ splitParameters_of_slash ('/' :: segments)
  simp only [parse, parseWith, String.toList_ofList, dropWhile_written h.isScheme,
    filter_notBlank h.notBlank]
  simp only [written, schemeRead, authorityRead, h.isAuthority, noFragment, noQuery, noParameters,
    ite_self, if_true, Option.getD_none]

theorem mem_splitAuthority {cs authority rest : List Char}
    (h : splitAuthority cs = (authority, rest)) :
    (∀ c ∈ authority, c ∈ cs ∧ c ≠ '/' ∧ c ≠ '?' ∧ c ≠ '#') ∧ ∀ c ∈ rest, c ∈ cs := by
  unfold splitAuthority at h
  split at h
  · next after =>
    cases h
    have deeper {c : Char} (hc : c ∈ after) : c ∈ '/' :: '/' :: after :=
      List.mem_cons_of_mem _ (List.mem_cons_of_mem _ hc)
    refine ⟨fun c hc => ?_, fun c hc => deeper ((List.dropWhile_sublist _).subset hc)⟩
    have inside := List.all_eq_true.mp List.all_takeWhile c hc
    simp only [Bool.not_eq_true', Bool.or_eq_false_iff, beq_eq_false_iff_ne] at inside
    exact ⟨deeper ((List.takeWhile_sublist _).subset hc), inside.1.1, inside.1.2, inside.2⟩
  · cases h
    exact ⟨fun c hc => absurd hc List.not_mem_nil, fun c hc => hc⟩

theorem mem_splitParameters {cs : List Char} {c : Char} (h : c ∈ (splitParameters cs).1) :
    c ∈ cs := by
  cases hcut : Text.cut ';' (Text.afterLast '/' cs) with
  | mk segment parameters =>
    cases parameters with
    | none =>
      simp only [splitParameters, hcut] at h
      exact h
    | some parameters =>
      simp only [splitParameters, hcut] at h
      rcases List.mem_append.mp h with before | inSegment
      · exact List.mem_of_mem_take before
      · have inCut : c ∈ (Text.cut ';' (Text.afterLast '/' cs)).1 := by rwa [hcut]
        exact Text.mem_of_mem_afterLast (Text.mem_fst_cut inCut).1

/-- Parts that are read can be written again. -/
theorem parts_of_parse {text : String} {uri : Uri} (h : parse text = some uri)
    (given : uri.scheme ≠ "") :
    ∃ scheme, IsScheme scheme ∧ uri.scheme = String.ofList (scheme.map Char.toLower) ∧
      isAuthority uri.authority.toList = true ∧
      (∀ c ∈ uri.authority.toList, c ≠ '/' ∧ c ≠ '?' ∧ c ≠ '#' ∧ isBlank c = false) ∧
      ∀ c ∈ uri.path.toList, c ≠ '?' ∧ c ≠ '#' ∧ isBlank c = false := by
  simp only [parse, parseWith] at h
  generalize hcs : (List.filter _ (List.dropWhile _ text.toList)) = cs at h
  have notBlank : ∀ c ∈ cs, isBlank c = false := by
    intro c hc
    rw [← hcs] at hc
    exact Bool.not_eq_true' _ ▸ (List.mem_filter.mp hc).2
  cases hscheme : splitScheme cs with
  | none =>
    simp only [hscheme] at h
    split at h
    · cases h
      exact absurd rfl given
    · cases h
  | some parts =>
    obtain ⟨name, after⟩ := parts
    obtain ⟨isScheme, inAfter⟩ := splitScheme_eq_some hscheme
    cases hauthority : splitAuthority after with
    | mk authority rest =>
      obtain ⟨inAuthority, inRest⟩ := mem_splitAuthority hauthority
      simp only [hscheme, hauthority] at h
      split at h
      · next isAuthority =>
        cases h
        refine ⟨name, isScheme, rfl, ?_, ?_, ?_⟩
        · rwa [String.toList_ofList]
        · intro c hc
          rw [String.toList_ofList] at hc
          obtain ⟨inside, slash, query, fragment⟩ := inAuthority c hc
          exact ⟨slash, query, fragment, notBlank c (inAfter c inside)⟩
        · intro c hc
          rw [String.toList_ofList] at hc
          have inQueryCut : c ∈ (Text.cut '?' (Text.cut '#' rest).1).1 := by
            split at hc
            · exact mem_splitParameters hc
            · exact hc
          obtain ⟨inFragmentCut, query⟩ := Text.mem_fst_cut inQueryCut
          obtain ⟨inPath, fragment⟩ := Text.mem_fst_cut inFragmentCut
          exact ⟨query, fragment, notBlank c (inAfter c (inRest c inPath))⟩
      · cases h

end RamlBridge.Uri

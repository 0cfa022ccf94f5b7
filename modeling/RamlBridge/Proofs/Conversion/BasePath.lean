import RamlBridge.Conversion.BaseUri
import RamlBridge.Proofs.Text.Pieces

/-!
The split of a path into its fixed segments and its templated ones. No segment is lost, and the two
parts one behind the other are the path again just if no fixed segment stands behind a templated
one.
-/
namespace RamlBridge.Conversion

theorem mem_segments {path : String} {segment : List Char} (h : segment ∈ segments path) :
    segment ≠ [] ∧ ∀ c ∈ segment, c ∈ path.toList ∧ c ≠ '/' := by
  obtain ⟨inPath, given⟩ := List.mem_filter.mp h
  rw [Bool.not_eq_true', List.isEmpty_eq_false_iff] at given
  exact ⟨given, fun c hc => Text.mem_of_mem_split inPath hc⟩

def AreSegments (pieces : List (List Char)) : Prop :=
  ∀ piece ∈ pieces, piece ≠ [] ∧ '/' ∉ piece

section Written

variable {pieces : List (List Char)}

theorem areSegments_segments (path : String) : AreSegments (segments path) := by
  intro piece hpiece
  obtain ⟨given, inside⟩ := mem_segments hpiece
  exact ⟨given, fun slash => (inside _ slash).2 rfl⟩

theorem AreSegments.filter (h : AreSegments pieces) (p : List Char → Bool) :
    AreSegments (pieces.filter p) :=
  fun piece hpiece => h piece (List.mem_filter.mp hpiece).1

/-- A slash in front of every piece is one in front of them all and one between any two. -/
theorem flatMap_slash (given : pieces ≠ []) :
    pieces.flatMap ('/' :: ·) = '/' :: Text.join '/' pieces := by
  induction pieces with
  | nil => exact absurd rfl given
  | cons piece rest ih =>
    cases rest with
    | nil => rw [List.flatMap_singleton, Text.join]
    | cons second others =>
      rw [List.flatMap_cons, ih (List.cons_ne_nil second others)]
      rfl

theorem split_rooted (h : AreSegments pieces) (given : pieces ≠ []) :
    Text.split '/' ('/' :: Text.join '/' pieces) = [] :: pieces := by
  rw [← List.nil_append ('/' :: _), Text.split_append_separator,
    Text.split_join given fun piece hpiece => (h piece hpiece).2]
  rfl

theorem segments_rooted (h : AreSegments pieces) :
    segments (String.ofList ('/' :: Text.join '/' pieces)) = pieces := by
  rw [segments, String.toList_ofList]
  by_cases given : pieces = []
  · subst given
    rfl
  · rw [split_rooted h given, List.filter_cons_of_neg (by decide)]
    refine List.filter_eq_self.mpr fun piece hpiece => ?_
    simpa using (h piece hpiece).1

theorem segments_append_slash (cs : List Char) :
    segments (String.ofList (cs ++ ['/'])) = segments (String.ofList cs) := by
  rw [segments, segments, String.toList_ofList, String.toList_ofList, Text.split_append_separator,
    List.filter_append]
  exact List.append_nil _

/-- Behind any slash of a written path only pieces of it follow. -/
theorem mem_of_mem_split_rooted (h : AreSegments pieces) (given : pieces ≠ [])
    {before after : List Char} (same : before ++ '/' :: after = '/' :: Text.join '/' pieces)
    {piece : List Char} (hpiece : piece ∈ Text.split '/' after) : piece ∈ pieces := by
  have whole := split_rooted h given
  rw [← same, Text.split_append_separator] at whole
  cases first : Text.split '/' before with
  | nil => exact absurd first (Text.split_ne_nil '/' before)
  | cons head tail =>
    rw [first, List.cons_append] at whole
    cases whole
    exact List.mem_append_right tail hpiece

theorem not_doubled (h : AreSegments pieces) :
    ¬ ['/', '/'] <:+: '/' :: Text.join '/' pieces := by
  rintro ⟨before, after, same⟩
  by_cases given : pieces = []
  · subst given
    have lengths := congrArg List.length same
    simp [Text.join] at lengths
    omega
  · rw [List.append_assoc] at same
    have empty : [] ∈ pieces := mem_of_mem_split_rooted h given same List.mem_cons_self
    exact (h [] empty).1 rfl

theorem not_trailing (h : AreSegments pieces) (given : pieces ≠ []) :
    ('/' :: Text.join '/' pieces).getLast? ≠ some '/' := by
  intro last
  obtain ⟨before, same⟩ := List.getLast?_eq_some_iff.mp last
  have empty : [] ∈ pieces := mem_of_mem_split_rooted h given same.symm List.mem_cons_self
  exact (h [] empty).1 rfl

end Written

/-- Members put behind the others stay where they were just if all that follow one are such too. -/
theorem filter_append_filter_eq_self_iff {α : Type} (p : α → Bool) (xs : List α) :
    xs.filter (!p ·) ++ xs.filter p = xs ↔
      xs.Pairwise fun earlier later => p earlier = true → p later = true := by
  induction xs with
  | nil => simp
  | cons x xs ih =>
    rw [List.pairwise_cons]
    by_cases hx : p x = true
    · rw [List.filter_cons_of_neg (by simp [hx]), List.filter_cons_of_pos hx]
      constructor
      · intro same
        -- Were another member to stay in front, it would have to be this one.
        cases others : xs.filter (!p ·) with
        | nil =>
          rw [others] at same ih
          refine ⟨fun y hy _ => ?_, ih.mp (List.cons.inj same).2⟩
          simpa using List.filter_eq_nil_iff.mp others y hy
        | cons y ys =>
          rw [others] at same
          have inside : y ∈ xs.filter (!p ·) := others ▸ List.mem_cons_self
          have other := (List.mem_filter.mp inside).2
          rw [(List.cons.inj same).1, hx] at other
          cases other
      · rintro ⟨each, _⟩
        have none : xs.filter (!p ·) = [] :=
          List.filter_eq_nil_iff.mpr fun y hy => by simp [each y hy hx]
        rw [none, List.filter_eq_self.mpr fun y hy => each y hy hx, List.nil_append]
    · rw [List.filter_cons_of_pos (by simp [hx]), List.filter_cons_of_neg hx, List.cons_append,
        List.cons_inj_right, ih]
      exact ⟨fun later => ⟨fun y _ h => absurd h hx, later⟩, fun h => h.2⟩

section Split

def fixedSegments (path : String) : List (List Char) :=
  (segments path).filter (!isTemplated ·)

def templatedSegments (path : String) : List (List Char) :=
  (segments path).filter isTemplated

theorem isTemplated_fixed {path : String} : ∀ s ∈ fixedSegments path, isTemplated s = false :=
  fun _ hs => (Bool.not_eq_true' _).mp (List.mem_filter.mp hs).2

theorem isTemplated_templated {path : String} :
    ∀ s ∈ templatedSegments path, isTemplated s = true :=
  fun _ hs => (List.mem_filter.mp hs).2

theorem splitBasePath_of_fixed {path : String} (h : ∀ s ∈ segments path, isTemplated s = false) :
    splitBasePath path = (String.ofList ('/' :: Text.join '/' (segments path)), "") := by
  have all : (segments path).filter (!isTemplated ·) = segments path :=
    List.filter_eq_self.mpr fun s hs => by rw [h s hs]; rfl
  have none : (segments path).filter isTemplated = [] :=
    List.filter_eq_nil_iff.mpr fun s hs => by rw [h s hs]; exact Bool.false_ne_true
  simp only [splitBasePath, all, none]
  rfl

theorem splitBasePath_of_templated {path : String}
    (h : ∀ s ∈ segments path, isTemplated s = true) :
    splitBasePath path = ("/", String.ofList ((segments path).flatMap ('/' :: ·))) := by
  have none : (segments path).filter (!isTemplated ·) = [] :=
    List.filter_eq_nil_iff.mpr fun s hs => by rw [h s hs]; exact Bool.false_ne_true
  simp only [splitBasePath, List.filter_eq_self.mpr h, none]
  rfl

theorem toList_fst_splitBasePath (path : String) :
    (splitBasePath path).1.toList = '/' :: Text.join '/' (fixedSegments path) :=
  String.toList_ofList

theorem toList_snd_splitBasePath (path : String) :
    (splitBasePath path).2.toList = (templatedSegments path).flatMap ('/' :: ·) :=
  String.toList_ofList

theorem segments_fst_splitBasePath (path : String) :
    segments (splitBasePath path).1 = fixedSegments path :=
  segments_rooted ((areSegments_segments path).filter _)

theorem segments_snd_splitBasePath (path : String) :
    segments (splitBasePath path).2 = templatedSegments path := by
  have written := toList_snd_splitBasePath path
  by_cases given : templatedSegments path = []
  · rw [given] at written ⊢
    rw [segments, written]
    rfl
  · rw [flatMap_slash given] at written
    rw [← String.ofList_toList (s := (splitBasePath path).2), written]
    exact segments_rooted ((areSegments_segments path).filter _)

theorem not_brace_fst_splitBasePath (path : String) :
    '\x7b' ∉ (splitBasePath path).1.toList := by
  rw [toList_fst_splitBasePath]
  intro brace
  rcases List.mem_cons.mp brace with slash | inside
  · exact absurd slash (by decide)
  · rcases Text.mem_join inside with slash | ⟨s, hs, inSegment⟩
    · exact absurd slash (by decide)
    · have fixed := isTemplated_fixed s hs
      rw [isTemplated, List.contains_eq_mem, decide_eq_false_iff_not] at fixed
      exact fixed inSegment

/-- The second part of a split path is empty or a path without a slash at its end. -/
theorem snd_splitBasePath_cases (path : String) :
    (splitBasePath path).2 = "" ∨ (splitBasePath path).2.toList.head? = some '/' ∧
      ¬ ['/', '/'] <:+: (splitBasePath path).2.toList ∧
      (splitBasePath path).2.toList.getLast? ≠ some '/' := by
  have written := toList_snd_splitBasePath path
  have proper : AreSegments (templatedSegments path) := (areSegments_segments path).filter _
  by_cases given : templatedSegments path = []
  · left
    rwa [given, List.flatMap_nil, String.toList_eq_nil_iff] at written
  · right
    rw [written, flatMap_slash given]
    exact ⟨rfl, not_doubled proper, not_trailing proper given⟩

end Split

/-- A path is split into its fixed and its templated segments, each in their order, and both parts
are paths of their kind that are split no further. One behind the other they are the path again
just if no fixed segment stands behind a templated one. -/
theorem splitBasePath_partitions (path : String) :
    ∃ basePath hoisted, splitBasePath path = (basePath, hoisted) ∧
      segments basePath = (segments path).filter (!isTemplated ·) ∧
      segments hoisted = (segments path).filter isTemplated ∧
      (basePath.toList.head? = some '/' ∧ ¬ ['/', '/'] <:+: basePath.toList ∧
        '\x7b' ∉ basePath.toList) ∧
      ((hoisted = "" ∨ hoisted.toList.head? = some '/') ∧ ¬ ['/', '/'] <:+: hoisted.toList ∧
        hoisted.toList.getLast? ≠ some '/') ∧
      splitBasePath basePath = (basePath, "") ∧ splitBasePath hoisted = ("/", hoisted) ∧
      (segments basePath ++ segments hoisted = segments path ↔
        (segments path).Pairwise fun earlier later =>
          isTemplated earlier = true → isTemplated later = true) := by
  have fixed := segments_fst_splitBasePath path
  have templated := segments_snd_splitBasePath path
  refine ⟨(splitBasePath path).1, (splitBasePath path).2, rfl, fixed, templated,
    ⟨?_, ?_, not_brace_fst_splitBasePath path⟩, ?_, ?_, ?_, ?_⟩
  · rw [toList_fst_splitBasePath]
    rfl
  · rw [toList_fst_splitBasePath]
    exact not_doubled ((areSegments_segments path).filter _)
  · rcases snd_splitBasePath_cases path with empty | ⟨rooted, single, last⟩
    · rw [empty]
      decide
    · exact ⟨Or.inr rooted, single, last⟩
  · have each : ∀ s ∈ segments (splitBasePath path).1, isTemplated s = false := by
      rw [fixed]
      exact isTemplated_fixed
    rw [splitBasePath_of_fixed each, fixed]
    rfl
  · have each : ∀ s ∈ segments (splitBasePath path).2, isTemplated s = true := by
      rw [templated]
      exact isTemplated_templated
    rw [splitBasePath_of_templated each, templated]
    rfl
  · rw [fixed, templated]
    exact filter_append_filter_eq_self_iff isTemplated (segments path)

example : splitBasePath "/\x7bversion\x7d//svc/" = ("/svc", "/\x7bversion\x7d") := rfl

end RamlBridge.Conversion

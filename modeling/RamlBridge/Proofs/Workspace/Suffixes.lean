import RamlBridge.Proofs.Workspace.Paths

/-!
Suffixes of paths. A path that takes another suffix keeps its parent and what its name has in front
of its own suffix, so that taking the suffix again changes nothing.
-/
namespace RamlBridge.FilePath

section Name

variable {cs stem ending : List Char}

/-- A name is split in front of its last dot, if something stands on both sides of it. -/
theorem splitSuffix_append (before : stem ≠ []) (behind : ending ≠ []) (last : '.' ∉ ending) :
    splitSuffix (stem ++ '.' :: ending) = (stem, '.' :: ending) := by
  have found : Text.afterLast '.' (stem ++ '.' :: ending) = ending := by
    rw [Text.afterLast_append_separator, Text.afterLast_of_not_mem last]
  have long : ending.length + 1 < (stem ++ '.' :: ending).length := by
    have := List.length_pos_iff.mpr before
    simp only [List.length_append, List.length_cons]
    omega
  have front : (stem ++ '.' :: ending).length - ending.length - 1 = stem.length := by
    simp only [List.length_append, List.length_cons]
    omega
  simp only [splitSuffix, found, front, List.take_left, if_pos (And.intro long behind)]

/-- Either a name has no suffix, or it is split in front of its last dot. -/
theorem splitSuffix_cases (cs : List Char) :
    splitSuffix cs = (cs, []) ∨
      ∃ stem ending, stem ≠ [] ∧ cs = stem ++ '.' :: ending ∧
        splitSuffix cs = (stem, '.' :: ending) := by
  by_cases h : (Text.afterLast '.' cs).length + 1 < cs.length ∧ Text.afterLast '.' cs ≠ []
  · right
    have parted : '.' ∈ cs := by
      refine Decidable.not_not.mp fun whole => ?_
      rw [Text.afterLast_of_not_mem whole] at h
      omega
    obtain ⟨stem, ending, rfl, last⟩ := Text.exists_last_of_mem parted
    rw [Text.afterLast_append_separator, Text.afterLast_of_not_mem last] at h
    have before : stem ≠ [] := by
      rintro rfl
      exact absurd h.1 (Nat.lt_irrefl _)
    exact ⟨stem, ending, before, rfl, splitSuffix_append before h.2 last⟩
  · left
    simp only [splitSuffix, if_neg h]

theorem append_splitSuffix (cs : List Char) : (splitSuffix cs).1 ++ (splitSuffix cs).2 = cs := by
  rcases splitSuffix_cases cs with same | ⟨stem, ending, _, parts, same⟩
  · rw [same, List.append_nil]
  · rw [same, ← parts]

theorem fst_splitSuffix_ne_nil (given : cs ≠ []) : (splitSuffix cs).1 ≠ [] := by
  rcases splitSuffix_cases cs with same | ⟨stem, ending, before, _, same⟩
  · rwa [same]
  · rwa [same]

end Name

section Suffix

variable {path : FilePath} {suffix : String}

/-- A suffix that begins with its only dot and goes on, without slashes. -/
def IsSingle (suffix : String) : Prop :=
  ∃ ending, suffix.toList = '.' :: ending ∧ ending ≠ [] ∧ ∀ c ∈ ending, c ≠ '.' ∧ c ≠ '/'

def stem (path : FilePath) : String :=
  String.ofList (splitSuffix path.name.toList).1

/-- A path with what is behind the stem of its name replaced. -/
def endingIn (path : FilePath) (suffix : String) : FilePath :=
  ⟨path.root, path.parts.dropLast ++ [path.stem ++ suffix]⟩

theorem IsSingle.isSuffix (h : IsSingle suffix) : isSuffix suffix = true := by
  obtain ⟨ending, chars, behind, each⟩ := h
  have noSlash : '/' ∉ ending := fun slash => (each _ slash).2 rfl
  have long := List.length_pos_iff.mpr behind
  simp [FilePath.isSuffix, chars, noSlash, long]

/-- A single suffix can be given to a path that has a name. -/
theorem withSuffix?_of_named (named : path.name ≠ "") (h : IsSingle suffix) :
    path.withSuffix? suffix = some (path.endingIn suffix) :=
  if_pos ⟨h.isSuffix, named⟩

theorem withSuffix?_of_nameless (nameless : path.name = "") (suffix : String) :
    path.withSuffix? suffix = none :=
  if_neg fun given => given.2 nameless

theorem stem_append_suffix (path : FilePath) : path.stem ++ path.suffix = path.name := by
  rw [stem, FilePath.suffix, ← String.ofList_append, append_splitSuffix, String.ofList_toList]

theorem toList_stem_ne_nil (named : path.name ≠ "") : path.stem.toList ≠ [] := by
  have given : path.name.toList ≠ [] := fun none => named (String.toList_eq_nil_iff.mp none)
  rw [stem, String.toList_ofList]
  exact fst_splitSuffix_ne_nil given

theorem mem_stem {c : Char} (h : c ∈ path.stem.toList) : c ∈ path.name.toList := by
  rw [← stem_append_suffix path, String.toList_append]
  exact List.mem_append_left _ h

theorem parts_eq (named : path.name ≠ "") : path.parts = path.parts.dropLast ++ [path.name] := by
  have given : path.parts ≠ [] := by
    intro none
    exact named (by rw [name, none, List.getLastD_nil])
  have last : path.name = path.parts.getLast given := by
    rw [name, List.getLastD_eq_getLast?, List.getLast?_eq_some_getLast given, Option.getD_some]
  rw [last, List.dropLast_concat_getLast]

theorem name_mem_parts (named : path.name ≠ "") : path.name ∈ path.parts := by
  have last : path.name ∈ path.parts.dropLast ++ [path.name] :=
    List.mem_append_right _ (List.mem_singleton_self _)
  rwa [← parts_eq named] at last

@[simp] theorem name_endingIn (path : FilePath) (suffix : String) :
    (path.endingIn suffix).name = path.stem ++ suffix :=
  List.getLastD_concat

theorem name_endingIn_ne_empty (named : path.name ≠ "") (suffix : String) :
    (path.endingIn suffix).name ≠ "" := by
  rw [name_endingIn]
  intro empty
  have noStem := (String.append_eq_empty_iff.mp empty).1
  exact toList_stem_ne_nil named (String.toList_eq_nil_iff.mpr noStem)

@[simp] theorem parent_endingIn (path : FilePath) (suffix : String) :
    (path.endingIn suffix).parent = path.parent := by
  simp [parent, endingIn]

theorem splitSuffix_endingIn (named : path.name ≠ "") (h : IsSingle suffix) :
    splitSuffix (path.endingIn suffix).name.toList = (path.stem.toList, suffix.toList) := by
  obtain ⟨ending, chars, behind, each⟩ := h
  rw [name_endingIn, String.toList_append, chars]
  exact splitSuffix_append (toList_stem_ne_nil named) behind fun dot => (each _ dot).1 rfl

theorem stem_endingIn (named : path.name ≠ "") (h : IsSingle suffix) :
    (path.endingIn suffix).stem = path.stem := by
  rw [stem, splitSuffix_endingIn named h, String.ofList_toList]

theorem endingIn_endingIn (named : path.name ≠ "") (h : IsSingle suffix) :
    (path.endingIn suffix).endingIn suffix = path.endingIn suffix := by
  rw [endingIn, stem_endingIn named h]
  simp [endingIn]

/-- A path is the same with another suffix just if it has that suffix. -/
theorem endingIn_eq_self_iff (named : path.name ≠ "") :
    path.endingIn suffix = path ↔ path.suffix = suffix := by
  constructor
  · intro same
    have names := congrArg name same
    rw [name_endingIn, ← stem_append_suffix path] at names
    exact (String.append_right_inj _).mp names.symm
  · rintro rfl
    rw [endingIn, stem_append_suffix, ← parts_eq named]

theorem isName_stem_append (h : IsDenoted path) (named : path.name ≠ "")
    (single : IsSingle suffix) : IsName (path.stem ++ suffix) := by
  obtain ⟨ending, chars, behind, each⟩ := single
  have shape : (path.stem ++ suffix).toList = path.stem.toList ++ '.' :: ending := by
    rw [String.toList_append, chars]
  constructor
  · intro empty
    simp [empty] at shape
  · intro dot
    have long := congrArg List.length shape
    have first := List.length_pos_iff.mpr (toList_stem_ne_nil named)
    simp only [dot, List.length_append, List.length_cons] at long
    change 1 = _ at long
    omega
  · intro slash
    rw [shape] at slash
    rcases List.mem_append.mp slash with inStem | inSuffix
    · exact (h.parts _ (name_mem_parts named)).noSlash (mem_stem inStem)
    · rcases List.mem_cons.mp inSuffix with dot | inEnding
      · exact absurd dot (by decide)
      · exact (each _ inEnding).2 rfl

theorem isDenoted_endingIn (h : IsDenoted path) (named : path.name ≠ "")
    (single : IsSingle suffix) : IsDenoted (path.endingIn suffix) := by
  refine ⟨h.root, fun name hname => ?_⟩
  rcases List.mem_append.mp hname with before | last
  · exact h.parts name ((List.dropLast_sublist _).subset before)
  · rw [List.mem_singleton.mp last]
    exact isName_stem_append h named single

end Suffix

end RamlBridge.FilePath

import RamlBridge.Proofs.Text.Pieces
import RamlBridge.Workspace.FilePath

/-!
Paths and their texts. A path that begins with the name of a directory has the text of the rest
behind that name and a slash. The text of a path that some text denotes is read as that path.
-/
namespace RamlBridge.FilePath

structure IsName (name : String) : Prop where
  given : name ≠ ""
  noDot : name ≠ "."
  noSlash : '/' ∉ name.toList

def AreNames (names : List String) : Prop := ∀ name ∈ names, IsName name

variable {d : String} {names : List String}

theorem IsName.toList_ne_nil (h : IsName d) : d.toList ≠ [] :=
  fun empty => h.given (String.toList_eq_nil_iff.mp empty)

theorem IsName.toList_ne_dot (h : IsName d) : d.toList ≠ ['.'] :=
  fun dot => h.noDot (String.toList_inj.mp dot)

theorem areNames_ofText (text : String) : AreNames (ofText text).parts := by
  intro name hname
  obtain ⟨piece, hpiece, rfl⟩ := List.mem_map.mp hname
  obtain ⟨inside, proper⟩ := List.mem_filter.mp hpiece
  obtain ⟨given, noDot⟩ := of_decide_eq_true proper
  constructor
  · intro empty
    exact given (String.ofList_inj.mp empty)
  · intro dot
    exact noDot (String.ofList_inj.mp dot)
  · intro slash
    rw [String.toList_ofList] at slash
    exact (Text.mem_of_mem_split inside slash).2 rfl

theorem rootOf_name (h : IsName d) (rest : List Char) : rootOf (d.toList ++ rest) = "" := by
  obtain ⟨c, cs, same⟩ := List.exists_cons_of_ne_nil h.toList_ne_nil
  have noSlash : c ≠ '/' := by
    rintro rfl
    exact h.noSlash (same ▸ List.mem_cons_self)
  rw [same, List.cons_append]
  unfold rootOf
  split
  · next first => exact absurd (List.cons.inj first).1 noSlash
  · next first => exact absurd (List.cons.inj first).1 noSlash
  · next first => exact absurd (List.cons.inj first).1 noSlash
  · rfl

/-- A text behind the name of a directory denotes a path below it. -/
theorem ofText_below (h : IsName d) (text : String) :
    ofText (d ++ "/" ++ text) = ⟨"", d :: (ofText text).parts⟩ := by
  have chars : (d ++ "/" ++ text).toList = d.toList ++ '/' :: text.toList := by
    simp
  have kept : ¬ d.toList = [] ∧ ¬ d.toList = ['.'] := ⟨h.toList_ne_nil, h.toList_ne_dot⟩
  rw [ofText, chars, rootOf_name h, Text.split_append_separator, Text.split_of_not_mem h.noSlash]
  simp [ofText, kept]

theorem ofText_name (h : IsName d) : ofText d = ⟨"", [d]⟩ := by
  have kept : ¬ d.toList = [] ∧ ¬ d.toList = ['.'] := ⟨h.toList_ne_nil, h.toList_ne_dot⟩
  have root := rootOf_name h []
  rw [List.append_nil] at root
  rw [ofText, root, Text.split_of_not_mem h.noSlash]
  simp [kept]

theorem toText_cons (given : names ≠ []) (d : String) :
    toText ⟨"", d :: names⟩ = d ++ "/" ++ toText ⟨"", names⟩ := by
  obtain ⟨name, rest, rfl⟩ := List.exists_cons_of_ne_nil given
  simp [toText, String.intercalate_cons_cons]

theorem toText_singleton (d : String) : toText ⟨"", [d]⟩ = d := by
  simp [toText]

/-- The text of a path denotes it. -/
theorem ofText_toText (h : AreNames names) : ofText (toText ⟨"", names⟩) = ⟨"", names⟩ := by
  induction names with
  | nil => rfl
  | cons d rest ih =>
    obtain ⟨first, later⟩ := List.forall_mem_cons.mp h
    by_cases last : rest = []
    · rw [last, toText_singleton, ofText_name first]
    · rw [toText_cons last, ofText_below first, ih later]

theorem size_toText_le (h : IsName d) (names : List String) :
    (toText ⟨"", names⟩).utf8ByteSize ≤ (toText ⟨"", d :: names⟩).utf8ByteSize := by
  by_cases last : names = []
  · subst last
    have given : d.utf8ByteSize ≠ 0 :=
      fun empty => h.given (String.utf8ByteSize_eq_zero_iff.mp empty)
    rw [toText_singleton]
    change 1 ≤ _
    omega
  · rw [toText_cons last, String.utf8ByteSize_append]
    omega

section Denoted

variable {root text : String}

def IsRoot (root : String) : Prop := root = "" ∨ root = "/" ∨ root = "//"

structure IsDenoted (path : FilePath) : Prop where
  root : IsRoot path.root
  parts : AreNames path.parts

theorem isRoot_rootOf (cs : List Char) : IsRoot (rootOf cs) := by
  unfold rootOf IsRoot
  split <;> simp

theorem isDenoted_ofText (text : String) : IsDenoted (ofText text) :=
  ⟨isRoot_rootOf text.toList, areNames_ofText text⟩

theorem isDenoted_name {name : String} (h : IsName name) : IsDenoted ⟨"", [name]⟩ :=
  ⟨.inl rfl, List.forall_mem_singleton.mpr h⟩

theorem rootOf_append (h : IsRoot root) {cs : List Char} (inside : cs.head? ≠ some '/') :
    rootOf (root.toList ++ cs) = root := by
  cases cs with
  | nil => rcases h with rfl | rfl | rfl <;> rfl
  | cons c rest =>
    have other : c ≠ '/' := fun same => inside (congrArg some same)
    rcases h with rfl | rfl | rfl <;> simp [rootOf, other]

/-- The root has no part in the names behind it. -/
theorem ofText_rooted (h : IsRoot root) (inside : text.toList.head? ≠ some '/') :
    ofText (root ++ text) = ⟨root, (ofText text).parts⟩ := by
  have slash (cs : List Char) : Text.split '/' ('/' :: cs) = [] :: Text.split '/' cs := if_pos rfl
  rw [ofText, String.toList_append, rootOf_append h inside]
  rcases h with rfl | rfl | rfl <;> simp [ofText, slash]

/-- The text of a relative path begins with its first name. -/
theorem toList_toText_cons (name : String) (names : List String) :
    ∃ more, (toText ⟨"", name :: names⟩).toList = name.toList ++ more := by
  by_cases last : names = []
  · exact ⟨[], by rw [last, toText_singleton, List.append_nil]⟩
  · exact ⟨'/' :: (toText ⟨"", names⟩).toList, by rw [toText_cons last]; simp⟩

theorem head_toText_cons {name : String} (h : IsName name) (names : List String) :
    (toText ⟨"", name :: names⟩).toList.head? ≠ some '/' := by
  obtain ⟨more, shape⟩ := toList_toText_cons name names
  obtain ⟨c, cs, same⟩ := List.exists_cons_of_ne_nil h.toList_ne_nil
  rw [shape, same]
  intro slash
  have first : c = '/' := Option.some.inj slash
  exact h.noSlash (same ▸ first ▸ List.mem_cons_self)

/-- The text of a path that some text denotes is read as that path. -/
theorem ofText_toText_of_denoted {path : FilePath} (h : IsDenoted path) :
    ofText path.toText = path := by
  obtain ⟨root, names⟩ := path
  cases names with
  | nil => rcases h.root with same | same | same <;> subst same <;> rfl
  | cons name rest =>
    have inside := head_toText_cons (h.parts name List.mem_cons_self) rest
    have text : toText ⟨root, name :: rest⟩ = root ++ toText ⟨"", name :: rest⟩ := by
      simp [toText]
    rw [text, ofText_rooted h.root inside, ofText_toText h.parts]

/-- Paths that texts denote differ in their texts. -/
theorem toText_inj {path other : FilePath} (h : IsDenoted path) (hother : IsDenoted other) :
    path.toText = other.toText ↔ path = other := by
  constructor
  · intro same
    rw [← ofText_toText_of_denoted h, same, ofText_toText_of_denoted hother]
  · rintro rfl
    rfl

theorem mem_of_mem_ofText {name : String} (h : name ∈ (ofText text).parts) {c : Char}
    (hc : c ∈ name.toList) : c ∈ text.toList := by
  obtain ⟨piece, hpiece, rfl⟩ := List.mem_map.mp h
  rw [String.toList_ofList] at hc
  exact (Text.mem_of_mem_split (List.mem_filter.mp hpiece).1 hc).1

end Denoted

end RamlBridge.FilePath

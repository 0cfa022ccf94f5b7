import RamlBridge.Proofs.Outcome
import RamlBridge.Proofs.Workspace.Paths
import RamlBridge.Workspace.TextFile

/-!
A tree of files that is placed in a directory. Whatever stood at a path that stays inside stands
behind the name of the directory then.
-/
namespace RamlBridge

open FilePath (IsName)

def Place.under (d : String) (p : Place) : Place := { p with names := d :: p.names }

/-- The names that lead down from some names on; they never lead above where these begin. -/
def staysInside : Nat → List String → Bool
  | _, [] => true
  | depth, name :: rest =>
    if name = ".." then depth ≠ 0 && staysInside (depth - 1) rest
    else staysInside (depth + 1) rest

namespace Place

variable {d : String} {p q : Place}

theorem under_inj : p.under d = q.under d ↔ p = q := by
  cases p
  cases q
  simp [Place.under]

theorem beq_under : (p.under d == q.under d) = (p == q) := by
  rw [Bool.eq_iff_iff, beq_iff_eq, beq_iff_eq, under_inj]

theorem isBelow_under : (p.under d).isBelow (q.under d) = p.isBelow q := by
  simp [Place.isBelow, Place.under]

theorem child_under (name : String) : (p.child name).under d = (p.under d).child name := rfl

theorem parent_under (given : p.names ≠ []) : (p.under d).parent = p.parent.under d := by
  simp [Place.parent, Place.under, given, List.dropLast_cons_of_ne_nil]

end Place

namespace FileTree

def placed (t : FileTree) (d : String) : FileTree where
  home := t.home
  directories := ⟨some 0, [d]⟩ :: t.directories.map (Place.under d)
  files := t.files.map fun f => (f.1.under d, f.2)

/-- A tree that the working directory is in, and whose files have names. -/
structure IsRooted (t : FileTree) : Prop where
  home : t.home.root ≠ ""
  files : ∀ f ∈ t.files, f.1.names ≠ []

variable {t : FileTree} {d : String} {p : Place}

theorem find?_placed (atHome : p.above = some 0) : (t.placed d).find? (p.under d) = t.find? p := by
  have files : (t.placed d).files.find? (·.1 == p.under d) =
      (t.files.find? (·.1 == p)).map fun f => (f.1.under d, f.2) := by
    rw [placed, List.find?_map]
    congr 1
    congr 1
    funext f
    exact Place.beq_under
  have atTop : ((⟨some 0, [d]⟩ : Place) == p.under d) = decide (p.names = []) := by
    obtain ⟨above, names⟩ := p
    cases atHome
    cases names <;> simp [Place.under]
  have notBelow : (⟨some 0, [d]⟩ : Place).isBelow (p.under d) = false := by
    simp [Place.isBelow, Place.under]
  have directories :
      ((t.placed d).directories.any fun e => e == p.under d || e.isBelow (p.under d)) =
      (decide (p.names = []) || t.directories.any fun e => e == p || e.isBelow p) := by
    simp only [placed, List.any_cons, List.any_map, Function.comp_def, atTop, notBelow,
      Place.beq_under, Place.isBelow_under, Bool.or_false]
  have around : ((t.placed d).files.any fun f => f.1.isBelow (p.under d)) =
      t.files.any fun f => f.1.isBelow p := by
    simp only [placed, List.any_map, Function.comp_def, Place.isBelow_under]
  have given : decide ((p.under d).names = []) = false := decide_eq_false (List.cons_ne_nil d _)
  unfold find?
  rw [files]
  cases t.files.find? (·.1 == p) with
  | some f => rfl
  | none => simp only [Option.map_none, directories, around, given, Bool.false_or]

/-- A step from a place leads to the same place as seen from the directory above, as long as it
does not lead there. -/
theorem step_placed (atHome : p.above = some 0) {name : String}
    (inside : name = ".." → p.names ≠ []) :
    (t.placed d).step (p.under d) name = (t.step p name).map (Place.under d) := by
  unfold step
  rw [find?_placed atHome]
  cases t.find? p with
  | none => rfl
  | some e =>
    cases e with
    | file content => rfl
    | directory =>
      by_cases up : name = ".."
      · simp only [if_pos up, map_ok, Place.parent_under (inside up)]
      · by_cases long : name.utf8ByteSize > longestName
        · simp only [if_neg up, if_pos long, map_error]
        · simp only [if_neg up, if_neg long, map_ok, Place.child_under]

/-- A step keeps to the working directory, and its depth is known. -/
theorem step_inside {q : Place} (atHome : p.above = some 0) {name : String}
    (inside : name = ".." → p.names ≠ []) (h : t.step p name = .ok q) :
    q.above = some 0 ∧
      q.names.length = if name = ".." then p.names.length - 1 else p.names.length + 1 := by
  unfold step at h
  split at h
  · cases h
  · cases h
  · by_cases up : name = ".."
    · rw [if_pos up] at h
      cases h
      simp [Place.parent, inside up, atHome, up]
    · rw [if_neg up] at h
      split at h
      · cases h
      · cases h
        simp [Place.child, atHome, up]

theorem ne_of_staysInside {name : String} {rest : List String}
    (inside : staysInside p.names.length (name :: rest) = true) : name = ".." → p.names ≠ [] := by
  intro up empty
  rw [staysInside, if_pos up, empty] at inside
  cases inside

theorem staysInside_step {q : Place} (atHome : p.above = some 0) {name : String}
    {rest : List String} (inside : staysInside p.names.length (name :: rest) = true)
    (h : t.step p name = .ok q) :
    q.above = some 0 ∧ staysInside q.names.length rest = true := by
  obtain ⟨still, depth⟩ := step_inside atHome (ne_of_staysInside inside) h
  refine ⟨still, ?_⟩
  rw [depth]
  by_cases up : name = ".."
  · rw [staysInside, if_pos up, Bool.and_eq_true] at inside
    rw [if_pos up]
    exact inside.2
  · rw [staysInside, if_neg up] at inside
    rw [if_neg up]
    exact inside

/-- Names that never lead above a place lead to the same place as seen from the directory above,
and to one at or below the working directory. -/
theorem foldlM_placed {names : List String} (atHome : p.above = some 0)
    (inside : staysInside p.names.length names = true) :
    names.foldlM (t.placed d).step (p.under d) = (names.foldlM t.step p).map (Place.under d) ∧
      ∀ q, names.foldlM t.step p = .ok q → q.above = some 0 := by
  induction names generalizing p with
  | nil =>
    refine ⟨rfl, fun q h => ?_⟩
    cases h
    exact atHome
  | cons name rest ih =>
    rw [List.foldlM_cons, List.foldlM_cons, step_placed atHome (ne_of_staysInside inside)]
    cases step : t.step p name with
    | error e => exact ⟨rfl, fun q h => nomatch h⟩
    | ok q =>
      obtain ⟨still, later⟩ := staysInside_step atHome inside step
      rw [map_ok, ok_bind, ok_bind]
      exact ih still later

structure IsDirectoryName (d : String) : Prop extends IsName d where
  notUp : d ≠ ".."
  short : d.utf8ByteSize ≤ longestName

/-- A relative path that never leads above where it begins, and that is not too long when it begins
in a directory. -/
structure Fits (d : String) (path : FilePath) : Prop where
  relative : path.root = ""
  inside : staysInside 0 path.parts = true
  short : (FilePath.mk "" (d :: path.parts)).toText.utf8ByteSize ≤ longestPath

theorem startOf_relative (rooted : t.IsRooted) (names : List String) :
    t.startOf ⟨"", names⟩ = (.home, names) := by
  have apart : ¬ "" = t.home.root := fun same => rooted.home same.symm
  simp [startOf, apart]

theorem IsRooted.placed (rooted : t.IsRooted) (d : String) : (t.placed d).IsRooted := by
  refine ⟨rooted.home, fun f hf => ?_⟩
  obtain ⟨g, _, rfl⟩ := List.mem_map.mp hf
  exact List.cons_ne_nil d _

theorem find?_home (rooted : t.IsRooted) : t.find? .home = some .directory := by
  have none : t.files.find? (·.1 == Place.home) = none := by
    apply List.find?_eq_none.mpr
    intro f hf same
    exact rooted.files f hf (by rw [eq_of_beq same]; rfl)
  unfold find?
  rw [none]
  rfl

theorem locate_placed (rooted : t.IsRooted) (hd : IsDirectoryName d) {names : List String}
    (fits : Fits d ⟨"", names⟩) :
    (t.placed d).locate ⟨"", d :: names⟩ = (t.locate ⟨"", names⟩).map (Place.under d) ∧
      ∀ q, t.locate ⟨"", names⟩ = .ok q → q.above = some 0 := by
  have long := FilePath.size_toText_le hd.toIsName names
  have short : (FilePath.mk "" (d :: names)).toText.utf8ByteSize ≤ longestPath := fits.short
  have first : (t.placed d).step .home d = .ok (Place.home.under d) := by
    have fitsName : ¬ d.utf8ByteSize > longestName := Nat.not_lt.mpr hd.short
    unfold step
    rw [find?_home (rooted.placed d)]
    simp only [if_neg hd.notUp, if_neg fitsName]
    rfl
  unfold locate
  rw [if_neg (Nat.not_lt.mpr short), if_neg (by omega), startOf_relative rooted,
    startOf_relative (rooted.placed d)]
  dsimp only
  rw [List.foldlM_cons, first, ok_bind]
  exact foldlM_placed rfl fits.inside

theorem look_placed (rooted : t.IsRooted) (hd : IsDirectoryName d) {names : List String}
    (fits : Fits d ⟨"", names⟩) : (t.placed d).look ⟨"", d :: names⟩ = t.look ⟨"", names⟩ := by
  obtain ⟨located, atHome⟩ := locate_placed rooted hd fits
  unfold look
  rw [located]
  cases h : t.locate ⟨"", names⟩ with
  | error e => rfl
  | ok q =>
    rw [map_ok, ok_bind, ok_bind, find?_placed (atHome q h)]

/-- A path to a file has a name. -/
theorem names_ne_nil (rooted : t.IsRooted) {names : List String} {content : List UInt8}
    (h : t.look ⟨"", names⟩ = .ok (.file content)) : names ≠ [] := by
  rintro rfl
  obtain ⟨q, located, h⟩ := bind_eq_ok h
  have home : q = .home := by
    unfold locate at located
    split at located
    · cases located
    · rw [startOf_relative rooted] at located
      cases located
      rfl
  rw [home, find?_home rooted] at h
  cases h

end FileTree

/-- Two texts of a relative path, the second of them behind the name of a directory. -/
def FilePath.SeenFrom (d r r' : String) : Prop :=
  ∃ names, ofText r = ⟨"", names⟩ ∧ ofText r' = ⟨"", d :: names⟩

namespace FilePath

variable {d r r' : String}

theorem SeenFrom.names (seen : SeenFrom d r r') :
    ∃ names, AreNames names ∧ ofText r = ⟨"", names⟩ ∧ ofText r' = ⟨"", d :: names⟩ := by
  obtain ⟨names, here, there⟩ := seen
  have proper := areNames_ofText r
  rw [here] at proper
  exact ⟨names, proper, here, there⟩

/-- What a relative path leads to beside a file is seen from the same directory as the file. -/
theorem SeenFrom.beside (seen : SeenFrom d r r') (given : (ofText r).parts ≠ []) {target : String}
    (relative : (ofText target).root = "") :
    ∃ names, AreNames names ∧ (ofText r).parent.append (ofText target) = ⟨"", names⟩ ∧
      (ofText r').parent.append (ofText target) = ⟨"", d :: names⟩ := by
  obtain ⟨names, proper, here, there⟩ := seen.names
  rw [here] at given
  refine ⟨names.dropLast ++ (ofText target).parts, ?_, ?_, ?_⟩
  · intro name hname
    rcases List.mem_append.mp hname with before | after
    · exact proper name ((List.dropLast_sublist names).subset before)
    · exact areNames_ofText target name after
  · rw [here, append, if_pos relative]
    rfl
  · rw [there, append, if_pos relative, parent, List.dropLast_cons_of_ne_nil given]
    rfl

end FilePath

/-- The same fault of a path and of the path behind the name of a directory. -/
inductive SystemFault.SeenFrom (d : String) : SystemFault → SystemFault → Prop
  | mk {path path'} (kind) : FilePath.SeenFrom d path path' → SeenFrom d ⟨kind, path⟩ ⟨kind, path'⟩

inductive TextFault.SeenFrom (d : String) : TextFault → TextFault → Prop
  | system {f f'} : SystemFault.SeenFrom d f f' → SeenFrom d (.system f) (.system f')
  | undecodable (f) : SeenFrom d (.undecodable f) (.undecodable f)

namespace FileTree

variable {t : FileTree} {d : String} {names : List String}

theorem seenFrom_toText (hd : IsName d) (proper : FilePath.AreNames names) :
    FilePath.SeenFrom d (FilePath.toText ⟨"", names⟩) (FilePath.toText ⟨"", d :: names⟩) :=
  ⟨names, FilePath.ofText_toText proper,
    FilePath.ofText_toText (List.forall_mem_cons.mpr ⟨hd, proper⟩)⟩

theorem contains_placed (rooted : t.IsRooted) (hd : IsDirectoryName d)
    (proper : FilePath.AreNames names) (fits : Fits d ⟨"", names⟩) :
    SameEnd (SystemFault.SeenFrom d) (t.contains ⟨"", names⟩)
      ((t.placed d).contains ⟨"", d :: names⟩) := by
  unfold contains
  rw [look_placed rooted hd fits]
  cases t.look ⟨"", names⟩ with
  | ok e => exact .ok true
  | error kind =>
    cases kind with
    | nameTooLong => exact .error (.mk _ (seenFrom_toText hd.toIsName proper))
    | notFound | taken | notDirectory | isDirectory => exact .ok false

theorem read_placed (rooted : t.IsRooted) (hd : IsDirectoryName d)
    (proper : FilePath.AreNames names) (fits : Fits d ⟨"", names⟩) :
    SameEnd (SystemFault.SeenFrom d) (t.read ⟨"", names⟩)
      ((t.placed d).read ⟨"", d :: names⟩) := by
  have seen := seenFrom_toText hd.toIsName proper
  unfold read
  rw [look_placed rooted hd fits]
  cases t.look ⟨"", names⟩ with
  | ok e =>
    cases e with
    | file content => exact .ok content
    | directory => exact .error (.mk _ seen)
  | error kind => exact .error (.mk _ seen)

/-- A file has the same text in the tree and in the tree that is placed. -/
theorem readText_placed (rooted : t.IsRooted) (hd : IsDirectoryName d)
    (proper : FilePath.AreNames names) (fits : Fits d ⟨"", names⟩) :
    SameEnd (TextFault.SeenFrom d) (t.readText ⟨"", names⟩)
      ((t.placed d).readText ⟨"", d :: names⟩) := by
  have content := read_placed rooted hd proper fits
  unfold readText
  generalize t.read ⟨"", names⟩ = first at content ⊢
  generalize (t.placed d).read ⟨"", d :: names⟩ = second at content ⊢
  cases content with
  | error seen => exact .error (.system seen)
  | ok content =>
    cases h : Text.decodeUtf8 content with
    | error f => simpa only [h] using .error (.undecodable f)
    | ok cs => simpa only [h] using .ok _

end FileTree

end RamlBridge

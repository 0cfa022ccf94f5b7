import Mathlib.Data.List.TakeWhile
import RamlBridge.Loading.Document

/-!
A byte order mark in front of a document. What is read of a text passes over the mark, but a header
behind a mark is not seen, so that its version is not looked at.
-/
namespace RamlBridge

namespace Text

/-- A line that is begun is the next one, whatever follows. -/
theorem linesFrom_of_ne_nil (cs : List Char) {current : List Char} (begun : current ≠ []) :
    ∃ more rest, linesFrom current cs = (current.reverse ++ more) :: rest := by
  fun_induction linesFrom current cs with
  | case1 => exact absurd rfl begun
  | case2 current _ => exact ⟨[], [], by rw [List.append_nil]⟩
  | case3 current rest _ => exact ⟨[], _, by rw [List.append_nil]⟩
  | case4 current c rest _ _ _ => exact ⟨[], _, by rw [List.append_nil]⟩
  | case5 current c rest _ _ ih =>
    obtain ⟨more, later, same⟩ := ih (List.cons_ne_nil c current)
    refine ⟨c :: more, later, ?_⟩
    rw [same, List.reverse_cons, List.append_assoc, List.singleton_append]

theorem trimChars_cons_ne_nil {p : Char → Bool} {c : Char} (kept : p c = false) (cs : List Char) :
    trimChars p (c :: cs) ≠ [] := by
  unfold trimChars
  rw [List.dropWhile_cons_of_neg (by simp [kept])]
  intro nothing
  have all := List.dropWhile_eq_nil_iff.mp (List.reverse_eq_nil_iff.mp nothing) c (by simp)
  simp [kept] at all

end Text

namespace Yaml

variable {text : List Char}

theorem tokens_cons_byteOrderMark (unmarked : text.head? ≠ some byteOrderMark) :
    tokens (byteOrderMark :: text) = tokens text := by
  unfold tokens
  dsimp only
  rw [if_neg unmarked, if_pos (List.head?_cons)]
  rfl

theorem read_cons_byteOrderMark {ε : Type} (inclusion : String → Except ε Datum)
    (unmarked : text.head? ≠ some byteOrderMark) :
    read inclusion (byteOrderMark :: text) = read inclusion text := by
  have plain : isPrintable byteOrderMark = true := by decide
  unfold read
  rw [tokens_cons_byteOrderMark unmarked, List.all_cons, plain, Bool.true_and]

end Yaml

namespace Loading

open Yaml (byteOrderMark)

def withMark (text : String) : String :=
  String.ofList (byteOrderMark :: text.toList)

def IsUnmarked (text : String) : Prop :=
  text.toList.head? ≠ some byteOrderMark

/-- If a text has a header, it names the version that is supported. -/
def HasSupportedHeader (text : String) : Prop :=
  ∀ version, headerVersion? text = some version → version = supportedVersion

theorem HasSupportedHeader.filter_eq_none {text : String} (h : HasSupportedHeader text) :
    (headerVersion? text).filter (· ≠ supportedVersion) = none := by
  cases found : headerVersion? text with
  | none => rfl
  | some version => simp [Option.filter, h version found]

theorem value_withMark (inclusion : String → Except Stop Datum) (source : String) {text : String}
    (unmarked : IsUnmarked text) :
    value inclusion source (withMark text) = value inclusion source text := by
  unfold value
  rw [withMark, String.toList_ofList, Yaml.read_cons_byteOrderMark inclusion unmarked]

theorem lines_withMark (text : String) :
    ∃ more rest, Text.lines (withMark text) = String.ofList (byteOrderMark :: more) :: rest := by
  have first : Text.linesFrom [] (byteOrderMark :: text.toList) =
      Text.linesFrom [byteOrderMark] text.toList := rfl
  obtain ⟨more, rest, same⟩ :=
    Text.linesFrom_of_ne_nil text.toList (List.cons_ne_nil byteOrderMark [])
  refine ⟨more, rest.map String.ofList, ?_⟩
  rw [Text.lines, withMark, String.toList_ofList, first, same]
  rfl

/-- The first line behind a mark is neither blank nor a header. -/
theorem headerVersion?_withMark (text : String) : headerVersion? (withMark text) = none := by
  obtain ⟨more, rest, same⟩ := lines_withMark text
  have visible : Text.strip (String.ofList (byteOrderMark :: more)) ≠ "" := by
    intro blank
    rw [Text.strip, String.toList_ofList] at blank
    exact Text.trimChars_cons_ne_nil (by decide) more (String.ofList_eq_empty_iff.mp blank)
  have noHeader : "#%RAML".toList.isPrefixOf (byteOrderMark :: more) = false := rfl
  unfold headerVersion?
  rw [same, List.find?_cons_of_pos (by simpa using visible)]
  simp only [String.toList_ofList, noHeader, Bool.false_eq_true, if_false]

/-- The failure to load a source whose header names a version that is not supported. -/
def unsupported (source version : String) : Stop :=
  .load source (some (.remark ("unsupported RAML version '" ++ version ++ "', only " ++
    supportedVersion ++ " is supported")))

/-- Outcomes of one kind: the same one, two failures to load or two failures to fit. -/
inductive Alike : Except Stop Raml.Root → Except Stop Raml.Root → Prop
  | same (outcome) : Alike outcome outcome
  | notLoaded (source source' cause cause') :
      Alike (.error (.load source cause)) (.error (.load source' cause'))
  | notFitting (source source' errors errors') :
      Alike (.error (.failure (.description source errors)))
        (.error (.failure (.description source' errors')))

section Load

variable (s : Sources) (directory source : String) {text : String}

theorem loadText_of_supported (unmarked : IsUnmarked text) (h : HasSupportedHeader text) :
    loadText s directory source (withMark text) = loadText s directory source text := by
  unfold loadText readRoot
  rw [headerVersion?_withMark, h.filter_eq_none, value_withMark _ source unmarked]
  rfl

theorem loadText_of_unsupported {version : String} (h : headerVersion? text = some version)
    (other : version ≠ supportedVersion) :
    loadText s directory source text = .error (unsupported source version) := by
  have found : (headerVersion? text).filter (· ≠ supportedVersion) = some version := by
    simp [h, Option.filter, other]
  unfold loadText readRoot
  rw [found]
  rfl

/-- A mark in front of a text that does not begin with one changes nothing, unless a header in the
text names a version that is not supported. Then the text alone is refused for it, and the two are
alike just if the text with the mark cannot be loaded for another reason. -/
theorem loadText_withMark (unmarked : IsUnmarked text) :
    (HasSupportedHeader text →
      loadText s directory source (withMark text) = loadText s directory source text) ∧
    (∀ version, headerVersion? text = some version → version ≠ supportedVersion →
      loadText s directory source text = .error (unsupported source version)) ∧
    (Alike (loadText s directory source (withMark text)) (loadText s directory source text) ↔
      HasSupportedHeader text ∨
        ∃ culprit cause,
          loadText s directory source (withMark text) = .error (.load culprit cause)) := by
  refine ⟨loadText_of_supported s directory source unmarked,
    fun version => loadText_of_unsupported s directory source, ?_⟩
  by_cases supported : HasSupportedHeader text
  · rw [loadText_of_supported s directory source unmarked supported]
    exact ⟨fun _ => .inl supported, fun _ => .same _⟩
  · obtain ⟨version, named, other⟩ : ∃ version, headerVersion? text = some version ∧
        version ≠ supportedVersion := by
      simpa [HasSupportedHeader] using supported
    rw [or_iff_right supported, loadText_of_unsupported s directory source named other]
    constructor
    · -- what fails to load is alike only to what fails to load
      intro alike
      generalize loadText s directory source (withMark text) = outcome at alike ⊢
      cases alike with
      | same => exact ⟨_, _, rfl⟩
      | notLoaded => exact ⟨_, _, rfl⟩
    · rintro ⟨culprit, cause, failed⟩
      rw [failed]
      exact .notLoaded _ _ _ _

end Load

section Header

def noFiles : Sources := ⟨⟨⟨"/", ["work"]⟩, [], []⟩, ⟨[], true⟩⟩

theorem loadText_withMark_titled : IsUnmarked "#%RAML 0.8\ntitle: x\n" ∧
    HasSupportedHeader "#%RAML 0.8\ntitle: x\n" ∧
    loadText noFiles "/work" "<string>" (withMark "#%RAML 0.8\ntitle: x\n") =
      loadText noFiles "/work" "<string>" "#%RAML 0.8\ntitle: x\n" := by
  have unmarked : IsUnmarked "#%RAML 0.8\ntitle: x\n" := by unfold IsUnmarked; decide
  have supported : HasSupportedHeader "#%RAML 0.8\ntitle: x\n" := by
    intro version named
    have same : headerVersion? "#%RAML 0.8\ntitle: x\n" = some "0.8" := by decide +kernel
    exact (Option.some.inj (same.symm.trans named)).symm
  exact ⟨unmarked, supported, (loadText_withMark noFiles "/work" "<string>" unmarked).1 supported⟩

/-- A description of another version is refused, but not behind a mark. -/
theorem not_alike_withMark :
    IsUnmarked "#%RAML 1.0\ntitle: x\n" ∧
    loadText noFiles "/work" "<string>" "#%RAML 1.0\ntitle: x\n" =
      .error (unsupported "<string>" "1.0") ∧
    (loadText noFiles "/work" "<string>" (withMark "#%RAML 1.0\ntitle: x\n")).isOk = true ∧
    ¬ Alike (loadText noFiles "/work" "<string>" (withMark "#%RAML 1.0\ntitle: x\n"))
      (loadText noFiles "/work" "<string>" "#%RAML 1.0\ntitle: x\n") := by
  have refused : loadText noFiles "/work" "<string>" "#%RAML 1.0\ntitle: x\n" =
      .error (unsupported "<string>" "1.0") :=
    loadText_of_unsupported noFiles "/work" "<string>" (by decide +kernel) (by decide)
  have loaded : (loadText noFiles "/work" "<string>"
      (withMark "#%RAML 1.0\ntitle: x\n")).isOk = true := by
    decide +kernel
  refine ⟨by unfold IsUnmarked; decide, refused, loaded, ?_⟩
  rw [refused]
  generalize loadText noFiles "/work" "<string>" (withMark "#%RAML 1.0\ntitle: x\n") = outcome
    at loaded ⊢
  intro alike
  cases alike <;> cases loaded

end Header

end Loading

end RamlBridge

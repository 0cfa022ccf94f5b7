import RamlBridge.Conversion.Output
import RamlBridge.Proofs.Uri.Shape
import RamlBridge.Proofs.Workspace.Suffixes

/-!
Default paths of outputs. The path for a source is no URL, and it is its own default. That of a
file stands beside the file, and is the file itself only if the file has the suffix already.
-/
namespace RamlBridge

namespace Uri

open FilePath (IsName IsDenoted)

variable {name text : String}

def BeginsCounted (text : String) : Prop :=
  ∃ c rest, text.toList = c :: rest ∧ isBlank c = false

theorem beginsCounted_of_unblank (given : text.toList ≠ [])
    (unblank : ∀ c ∈ text.toList, isBlank c = false) : BeginsCounted text := by
  obtain ⟨c, rest, chars⟩ := List.exists_cons_of_ne_nil given
  exact ⟨c, rest, chars, unblank c (chars ▸ List.mem_cons_self)⟩

theorem BeginsCounted.append (h : BeginsCounted text) (more : String) :
    BeginsCounted (text ++ more) := by
  obtain ⟨c, rest, chars, first⟩ := h
  exact ⟨c, rest ++ more.toList, by rw [String.toList_append, chars, List.cons_append], first⟩

theorem isUrl_rooted (text : String) : isUrl ("/" ++ text) = false := by
  have below : isUrl ("" ++ "/" ++ text) = false := isUrl_below List.not_mem_nil nofun
  rwa [String.empty_append] at below

theorem head_counted_toText (h : IsName name) (counts : BeginsCounted name) (names : List String) :
    (counted (FilePath.toText ⟨"", name :: names⟩).toList).head? ≠ some '/' := by
  obtain ⟨more, shape⟩ := FilePath.toList_toText_cons name names
  obtain ⟨c, rest, chars, first⟩ := counts
  have kept : (counted (c :: (rest ++ more))).head? = some c := by
    rw [counted, List.filter_cons_of_pos (by rw [first]; rfl), List.head?_cons]
  rw [shape, chars, List.cons_append, kept]
  rintro slash
  exact h.noSlash (chars ▸ Option.some.inj slash ▸ List.mem_cons_self)

/-- A path is no URL, since only its root can have two slashes side by side. -/
theorem isUrl_toText {path : FilePath} (h : IsDenoted path)
    (counts : ∀ name ∈ path.parts.tail, BeginsCounted name) : isUrl path.toText = false := by
  obtain ⟨root, names⟩ := path
  rcases h.root with relative | rooted | rooted
  · subst relative
    match names with
    | [] => decide
    | [name] =>
      rw [FilePath.toText_singleton]
      exact isUrl_name (h.parts name List.mem_cons_self).noSlash
    | name :: second :: rest =>
      obtain ⟨first, later⟩ := List.forall_mem_cons.mp h.parts
      rw [FilePath.toText_cons (List.cons_ne_nil second rest)]
      -- the second name begins with a character that keeps the slashes around it apart
      exact isUrl_below first.noSlash fun _ =>
        head_counted_toText (later second List.mem_cons_self)
          (counts second List.mem_cons_self) rest
  · subst rooted
    exact isUrl_rooted _
  · subst rooted
    have text : FilePath.toText ⟨"//", names⟩ = "/" ++ ("/" ++ "/".intercalate names) := by
      simp [FilePath.toText, ← String.append_assoc]
    rw [text]
    exact isUrl_rooted _

end Uri

namespace Conversion

open FilePath (IsName IsDenoted IsSingle)

variable {source suffix : String}

/-- The path whose name, with another suffix, is the name of the output. -/
def namesake (source : String) : FilePath :=
  if Uri.isUrl source then
    let name := (FilePath.ofText (((Uri.parse source).map Uri.path).getD "")).name
    FilePath.ofText (if name = "" then "swagger" else name)
  else FilePath.ofText source

theorem namesake_of_file (file : Uri.isUrl source = false) :
    namesake source = FilePath.ofText source := by
  rw [namesake, file]
  rfl

/-- The output of a page goes into the current directory. -/
theorem namesake_of_page (page : Uri.isUrl source = true) :
    ∃ name, IsName name ∧ namesake source = ⟨"", [name]⟩ := by
  rw [namesake, if_pos page]
  generalize ((Uri.parse source).map Uri.path).getD "" = path
  dsimp only
  by_cases unnamed : (FilePath.ofText path).name = ""
  · have isName : IsName "swagger" := ⟨by decide, by decide, by decide⟩
    rw [if_pos unnamed]
    exact ⟨_, isName, FilePath.ofText_name isName⟩
  · have isName : IsName (FilePath.ofText path).name :=
      FilePath.areNames_ofText path _ (FilePath.name_mem_parts unnamed)
    rw [if_neg unnamed]
    exact ⟨_, isName, FilePath.ofText_name isName⟩

theorem isDenoted_namesake (source : String) : IsDenoted (namesake source) := by
  cases kind : Uri.isUrl source with
  | true =>
    obtain ⟨name, isName, same⟩ := namesake_of_page kind
    rw [same]
    exact FilePath.isDenoted_name isName
  | false =>
    rw [namesake_of_file kind]
    exact FilePath.isDenoted_ofText source

/-- A page always has a name for its output. -/
theorem name_namesake_eq_empty :
    (namesake source).name = "" ↔
      Uri.isUrl source = false ∧ (FilePath.ofText source).name = "" := by
  cases kind : Uri.isUrl source with
  | true =>
    obtain ⟨name, isName, same⟩ := namesake_of_page kind
    rw [same]
    exact iff_of_false isName.given fun h => Bool.noConfusion h.1
  | false =>
    rw [namesake_of_file kind]
    exact (and_iff_right rfl).symm

theorem defaultOutputPath_eq (source suffix : String) :
    defaultOutputPath source suffix =
      ((namesake source).withSuffix? suffix).map FilePath.toText := rfl

theorem defaultOutputPath_of_named (named : (namesake source).name ≠ "")
    (single : IsSingle suffix) :
    defaultOutputPath source suffix = some ((namesake source).endingIn suffix).toText := by
  rw [defaultOutputPath_eq, FilePath.withSuffix?_of_named named single, Option.map_some]

theorem defaultOutputPath_of_nameless (nameless : (namesake source).name = "") (suffix : String) :
    defaultOutputPath source suffix = none := by
  rw [defaultOutputPath_eq, FilePath.withSuffix?_of_nameless nameless, Option.map_none]

/-- The names of the output begin with characters of the source, even the one with the suffix. -/
theorem beginsCounted_endingIn (unblank : ∀ c ∈ source.toList, Uri.isBlank c = false)
    (named : (FilePath.ofText source).name ≠ "") {name : String}
    (h : name ∈ ((FilePath.ofText source).endingIn suffix).parts) : Uri.BeginsCounted name := by
  have unblankName {name : String} (inside : name ∈ (FilePath.ofText source).parts) :
      ∀ c ∈ name.toList, Uri.isBlank c = false :=
    fun c hc => unblank c (FilePath.mem_of_mem_ofText inside hc)
  rcases List.mem_append.mp h with before | last
  · have inside := (List.dropLast_sublist _).subset before
    have isName := FilePath.areNames_ofText source name inside
    exact Uri.beginsCounted_of_unblank isName.toList_ne_nil (unblankName inside)
  · rw [List.mem_singleton.mp last]
    have inside := FilePath.name_mem_parts named
    refine Uri.BeginsCounted.append ?_ suffix
    exact Uri.beginsCounted_of_unblank (FilePath.toList_stem_ne_nil named)
      fun c hc => unblankName inside c (FilePath.mem_stem hc)

/-- The output is no URL. That of a page is one name, without a slash. -/
theorem isUrl_endingIn (unblank : ∀ c ∈ source.toList, Uri.isBlank c = false)
    (named : (namesake source).name ≠ "") (single : IsSingle suffix) :
    Uri.isUrl ((namesake source).endingIn suffix).toText = false := by
  have denoted := FilePath.isDenoted_endingIn (isDenoted_namesake source) named single
  refine Uri.isUrl_toText denoted fun name later => ?_
  cases kind : Uri.isUrl source with
  | true =>
    obtain ⟨only, _, same⟩ := namesake_of_page kind
    rw [same] at later
    exact absurd later List.not_mem_nil
  | false =>
    rw [namesake_of_file kind] at named later
    exact beginsCounted_endingIn unblank named (List.mem_of_mem_tail later)

/-- The output of an output is the output. -/
theorem defaultOutputPath_again (named : (namesake source).name ≠ "") (single : IsSingle suffix)
    (file : Uri.isUrl ((namesake source).endingIn suffix).toText = false) :
    defaultOutputPath ((namesake source).endingIn suffix).toText suffix =
      some ((namesake source).endingIn suffix).toText := by
  have denoted := FilePath.isDenoted_endingIn (isDenoted_namesake source) named single
  have itself : namesake ((namesake source).endingIn suffix).toText =
      (namesake source).endingIn suffix := by
    rw [namesake_of_file file, FilePath.ofText_toText_of_denoted denoted]
  have named' : (namesake ((namesake source).endingIn suffix).toText).name ≠ "" := by
    rw [itself]
    exact FilePath.name_endingIn_ne_empty named suffix
  rw [defaultOutputPath_of_named named' single, itself, FilePath.endingIn_endingIn named single]

/-- Every source has a default output, but for a file without a name. If no tab or line end stands
in the source, its output is no URL, has a name that ends in the suffix, and is its own default
output. The output of a file stands beside it, and is the file itself just if the file has the
suffix already. -/
theorem defaultOutputPath_stable (unblank : ∀ c ∈ source.toList, Uri.isBlank c = false)
    (single : IsSingle suffix) :
    (defaultOutputPath source suffix = none ↔
      Uri.isUrl source = false ∧ (FilePath.ofText source).name = "") ∧
    ∀ output, defaultOutputPath source suffix = some output →
      Uri.isUrl output = false ∧
      (∃ stem, (FilePath.ofText output).name = stem ++ suffix) ∧
      defaultOutputPath output suffix = some output ∧
      (Uri.isUrl source = false →
        (FilePath.ofText output).parent = (FilePath.ofText source).parent ∧
        (output = (FilePath.ofText source).toText ↔ (FilePath.ofText source).suffix = suffix)) := by
  rw [← name_namesake_eq_empty]
  by_cases named : (namesake source).name = ""
  · rw [defaultOutputPath_of_nameless named]
    exact ⟨iff_of_true rfl named, nofun⟩
  · have denoted := FilePath.isDenoted_endingIn (isDenoted_namesake source) named single
    have read := FilePath.ofText_toText_of_denoted denoted
    have notUrl := isUrl_endingIn unblank named single
    have again := defaultOutputPath_again named single notUrl
    rw [defaultOutputPath_of_named named single]
    refine ⟨iff_of_false nofun named, fun output same => ?_⟩
    obtain rfl := Option.some.inj same
    refine ⟨notUrl, ⟨_, by rw [read, FilePath.name_endingIn]⟩, again, fun file => ?_⟩
    -- a file is named after itself
    rw [read, FilePath.parent_endingIn]
    rw [namesake_of_file file] at named denoted ⊢
    refine ⟨rfl, ?_⟩
    rw [FilePath.toText_inj denoted (FilePath.isDenoted_ofText source)]
    exact FilePath.endingIn_eq_self_iff named

/-- A scheme with one slash behind it begins no URL, and no second slash joins it in the output. -/
theorem defaultOutputPath_stable_nested :
    (∀ c ∈ "http:/.//h/api.v1.raml".toList, Uri.isBlank c = false) ∧ IsSingle ".json" ∧
    defaultOutputPath "http:/.//h/api.v1.raml" ".json" = some "http:/h/api.v1.json" ∧
    Uri.isUrl "http:/.//h/api.v1.raml" = false ∧
    Uri.isUrl "http:/h/api.v1.json" = false ∧
    defaultOutputPath "http:/h/api.v1.json" ".json" = some "http:/h/api.v1.json" ∧
    (FilePath.ofText "http:/h/api.v1.json").parent =
      (FilePath.ofText "http:/.//h/api.v1.raml").parent ∧
    "http:/h/api.v1.json" ≠ (FilePath.ofText "http:/.//h/api.v1.raml").toText := by
  have noBlank : "http:/.//h/api.v1.raml".toList.any Uri.isBlank = false := by decide +kernel
  have unblank : ∀ c ∈ "http:/.//h/api.v1.raml".toList, Uri.isBlank c = false :=
    fun c hc => Bool.eq_false_iff.mpr (List.any_eq_false.mp noBlank c hc)
  have single : IsSingle ".json" := ⟨['j', 's', 'o', 'n'], by decide, by decide, by simp⟩
  have given : defaultOutputPath "http:/.//h/api.v1.raml" ".json" = some "http:/h/api.v1.json" := by
    decide +kernel
  have file : Uri.isUrl "http:/.//h/api.v1.raml" = false := by decide +kernel
  have otherSuffix : (FilePath.ofText "http:/.//h/api.v1.raml").suffix ≠ ".json" := by
    decide +kernel
  obtain ⟨notUrl, _, again, beside⟩ := (defaultOutputPath_stable unblank single).2 _ given
  obtain ⟨parent, itself⟩ := beside file
  exact ⟨unblank, single, given, file, notUrl, again, parent,
    fun same => otherSuffix (itself.mp same)⟩

/-- A tab does not count in a URL, but it is a name of a path. -/
example : Uri.isUrl "http:/.//\t/h" = false ∧
    defaultOutputPath "http:/.//\t/h" ".json" = some "http:/\t/h.json" ∧
    Uri.isUrl "http:/\t/h.json" = true := by
  decide +kernel

end Conversion

end RamlBridge

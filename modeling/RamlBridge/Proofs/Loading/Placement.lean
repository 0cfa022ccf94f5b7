import RamlBridge.Proofs.Loading.Outcomes
import RamlBridge.Proofs.Uri.Shape
import RamlBridge.Proofs.Workspace.Placed
import RamlBridge.Proofs.Yaml.SameParts

/-!
Descriptions whose files are placed in a directory. They are loaded as before, or fail alike, as
long as the name of the directory is not taken for the address of something else.
-/
namespace RamlBridge.Loading

open Relation
open FileTree (IsDirectoryName Fits)

section Names

variable {d source : String}

theorem resolve_path {location target : String} (here : Uri.isUrl location = false)
    (there : Uri.isUrl target = false) :
    resolve location target =
      .ok ((FilePath.ofText location).parent.append (FilePath.ofText target)).toText := by
  unfold resolve
  rw [if_neg (Bool.eq_false_iff.mp there), if_neg (Bool.eq_false_iff.mp here)]

/-- The path of a source up to the query that it would have as a URL. -/
def unqueried (source : String) : FilePath :=
  FilePath.ofText (String.ofList (Text.cut '?' source.toList).1)

theorem unqueried_below (hd : FilePath.IsName d) (noQuery : '?' ∉ d.toList) (source : String) :
    unqueried (d ++ "/" ++ source) = ⟨"", d :: (unqueried source).parts⟩ := by
  have chars : (d ++ "/" ++ source).toList = (d.toList ++ ['/']) ++ source.toList := by simp
  have whole : '?' ∉ d.toList ++ ['/'] := by simp [noQuery]
  have text : String.ofList ((d.toList ++ ['/']) ++ (Text.cut '?' source.toList).1) =
      d ++ "/" ++ String.ofList (Text.cut '?' source.toList).1 := by
    apply String.toList_inj.mp
    simp
  rw [unqueried, chars, Text.cut_append_of_not_mem whole, text, FilePath.ofText_below hd]
  rfl

theorem unqueried_name (hd : FilePath.IsName d) (noQuery : '?' ∉ d.toList) :
    unqueried d = ⟨"", [d]⟩ := by
  rw [unqueried, Text.cut_of_not_mem noQuery, String.ofList_toList, FilePath.ofText_name hd]

theorem isDocument_congr {source' : String}
    (same : (unqueried source).name = (unqueried source').name) :
    isDocument source = isDocument source' := by
  change [".raml", ".yaml", ".yml"].contains (Text.lower (unqueried source).suffix) = _
  rw [FilePath.suffix, same]
  rfl

/-- A source that has a name of its own is a document by that name, wherever it stands. -/
theorem isDocument_below (hd : FilePath.IsName d) (noQuery : '?' ∉ d.toList)
    (named : isDocument d = true → (unqueried source).parts ≠ []) :
    isDocument (d ++ "/" ++ source) = isDocument source := by
  by_cases given : (unqueried source).parts = []
  · have plain : isDocument d = false := Bool.eq_false_iff.mpr fun doc => named doc given
    have unnamed : isDocument source = isDocument "" := by
      apply isDocument_congr
      rw [FilePath.name, given]
      rfl
    have asDirectory : isDocument (d ++ "/" ++ source) = isDocument d := by
      apply isDocument_congr
      rw [unqueried_below hd noQuery, unqueried_name hd noQuery, given]
    rw [asDirectory, plain, unnamed]
    rfl
  · apply isDocument_congr
    obtain ⟨name, rest, parts⟩ := List.exists_cons_of_ne_nil given
    rw [unqueried_below hd noQuery, FilePath.name, FilePath.name, parts]
    simp [List.getLastD_eq_getLast?, List.getLast?_cons]

end Names

/-- A path that stays inside and remains one behind the name of a directory. -/
structure Stays (d source : String) : Prop where
  noUrl : Uri.isUrl source = false
  fits : Fits d (FilePath.ofText source)
  apart : (Uri.counted d.toList).getLast? = some ':' →
    (Uri.counted source.toList).head? ≠ some '/'

/-- A source, and its name after it was placed in a directory. -/
structure Moved (d source source' : String) : Prop where
  seen : FilePath.SeenFrom d source source'
  noUrl : Uri.isUrl source = false
  noUrl' : Uri.isUrl source' = false
  fits : Fits d (FilePath.ofText source)

def Document.part (x : Document) (target : String) : String :=
  ((FilePath.ofText x.location).parent.append (FilePath.ofText target)).toText

/-- A target that is a relative path, and leads to one that stays inside. -/
structure Document.LeadsInside (d : String) (x : Document) (target : String) : Prop where
  noUrl : Uri.isUrl target = false
  relative : (FilePath.ofText target).root = ""
  stays : Stays d (x.part target)
  named : isDocument d = true → (unqueried (x.part target)).parts ≠ []

section Moving

variable {d source : String}

theorem ofText_of_relative {text : String} (relative : (FilePath.ofText text).root = "") :
    FilePath.ofText text = ⟨"", (FilePath.ofText text).parts⟩ := by
  rw [← relative]

theorem Stays.moved (hd : IsDirectoryName d) (stays : Stays d source) :
    Moved d source (d ++ "/" ++ source) where
  seen := ⟨_, ofText_of_relative stays.fits.relative, FilePath.ofText_below hd.toIsName source⟩
  noUrl := stays.noUrl
  noUrl' := Uri.isUrl_below hd.noSlash stays.apart
  fits := stays.fits

/-- The parts of a document that was moved are moved, too. -/
theorem Moved.part (hd : IsDirectoryName d) {x : Document} {location' target : String}
    (moved : Moved d x.location location') (given : (FilePath.ofText x.location).parts ≠ [])
    (inside : x.LeadsInside d target) :
    resolve x.location target = .ok (x.part target) ∧
      ∃ source', resolve location' target = .ok source' ∧ Moved d (x.part target) source' ∧
        ((FilePath.ofText (x.part target)).parts ≠ [] → source' = d ++ "/" ++ x.part target) := by
  obtain ⟨names, proper, here, there⟩ := moved.seen.beside given inside.relative
  have part : x.part target = FilePath.toText ⟨"", names⟩ := by rw [Document.part, here]
  have seen : FilePath.SeenFrom d (x.part target) (FilePath.toText ⟨"", d :: names⟩) := by
    rw [part]
    exact FileTree.seenFrom_toText hd.toIsName proper
  have below (given : names ≠ []) :
      FilePath.toText ⟨"", d :: names⟩ = d ++ "/" ++ x.part target := by
    rw [part, FilePath.toText_cons given]
  refine ⟨resolve_path moved.noUrl inside.noUrl, FilePath.toText ⟨"", d :: names⟩, ?_, ?_, ?_⟩
  · rw [resolve_path moved.noUrl' inside.noUrl, there]
  · refine ⟨seen, inside.stays.noUrl, ?_, inside.stays.fits⟩
    by_cases empty : names = []
    · rw [empty, FilePath.toText_singleton]
      exact Uri.isUrl_name hd.noSlash
    · rw [below empty]
      exact Uri.isUrl_below hd.noSlash inside.stays.apart
  · intro given
    rw [part, FilePath.ofText_toText proper] at given
    exact below given

end Moving

inductive CauseSeenFrom (d : String) : Cause → Cause → Prop
  | same (c) : CauseSeenFrom d c c
  | system {f f'} : SystemFault.SeenFrom d f f' → CauseSeenFrom d (.system f) (.system f')

/-- The same stop, but for the path that it names. -/
inductive Stop.SeenFrom (d : String) : Stop → Stop → Prop
  | load {r r' c c'} : FilePath.SeenFrom d r r' → CauseSeenFrom d c c' →
      SeenFrom d (.load r (some c)) (.load r' (some c'))
  | description {r r'} (errors) : FilePath.SeenFrom d r r' →
      SeenFrom d (.failure (.description r errors)) (.failure (.description r' errors))
  | unusableName {f f'} : SystemFault.SeenFrom d f f' →
      SeenFrom d (.unusableName f) (.unusableName f')
  | unprintable : SeenFrom d .unprintable .unprintable
  | badEscape (tooLarge) : SeenFrom d (.badEscape tooLarge) (.badEscape tooLarge)
  | integerTooLong : SeenFrom d .integerTooLong .integerTooLong
  | recursive : SeenFrom d .recursive .recursive
  | unreadable (fault) : SeenFrom d (.unreadable fault) (.unreadable fault)
  | obstacle (o) : SeenFrom d (.obstacle o) (.obstacle o)
  | endless : SeenFrom d .endless .endless

def Sources.placed (s : Sources) (d : String) : Sources :=
  { s with tree := s.tree.placed d }

theorem tree_placed (s : Sources) (d : String) : (s.placed d).tree = s.tree.placed d := rfl

section Reading

variable {s : Sources} {d source source' : String}

theorem cause_seenFrom {f f' : TextFault} (seen : TextFault.SeenFrom d f f') :
    CauseSeenFrom d f.cause f'.cause := by
  cases seen with
  | system seen => exact .system seen
  | undecodable f => exact .same _

theorem readFile_placed (rooted : s.tree.IsRooted) (hd : IsDirectoryName d)
    (seen : FilePath.SeenFrom d source source') (fits : Fits d (FilePath.ofText source)) :
    SameEnd (Stop.SeenFrom d) (s.readFile source) ((s.placed d).readFile source') := by
  obtain ⟨names, proper, here, there⟩ := seen.names
  rw [here] at fits
  have found := FileTree.contains_placed rooted hd proper fits
  have text := FileTree.readText_placed rooted hd proper fits
  unfold Sources.readFile
  dsimp only
  rw [here, there, tree_placed]
  generalize s.tree.contains _ = first at found ⊢
  generalize (s.tree.placed d).contains _ = first' at found ⊢
  cases found with
  | error fault => exact .error (.unusableName fault)
  | ok present =>
    cases present with
    | false => exact .error (.load seen (.same _))
    | true =>
      generalize s.tree.readText _ = second at text ⊢
      generalize (s.tree.placed d).readText _ = second' at text ⊢
      cases text with
      | ok text => exact .ok text
      | error fault => exact .error (.load seen (cause_seenFrom fault))

theorem read_placed (rooted : s.tree.IsRooted) (hd : IsDirectoryName d)
    (moved : Moved d source source') :
    SameEnd (Stop.SeenFrom d) (s.read source) ((s.placed d).read source') := by
  unfold Sources.read
  rw [moved.noUrl, moved.noUrl']
  exact readFile_placed rooted hd moved.seen moved.fits

/-- What is read has a name. -/
theorem named_of_read (rooted : s.tree.IsRooted) (moved : Moved d source source') {text : String}
    (h : s.read source = .ok text) : (FilePath.ofText source).parts ≠ [] := by
  obtain ⟨names, here, _⟩ := moved.seen
  rw [Sources.read, moved.noUrl] at h
  obtain ⟨content, looked⟩ := Sources.look_of_readText (Sources.readText_of_readFile h)
  rw [here] at looked ⊢
  exact FileTree.names_ne_nil rooted looked

end Reading

section Values

variable {s : Sources} {d source' : String} {x : Document}

theorem stopOf_seenFrom {source : String} {f f' : Yaml.ReadFault Stop}
    (seen : FilePath.SeenFrom d source source')
    (alike : Yaml.ReadFault.Alike (Stop.SeenFrom d) f f') :
    Stop.SeenFrom d (stopOf source f) (stopOf source' f') := by
  cases alike with
  | unprintable => exact .unprintable
  | broken fault =>
    cases fault with
    | malformed => exact .load seen (.same _)
    | noCharacter => exact .badEscape false
    | codeTooLarge => exact .badEscape true
    | integerTooLong => exact .integerTooLong
    | recursive => exact .recursive
  | valueless alike =>
    cases alike with
    | malformed => exact .load seen (.same _)
    | unreadable fault => exact .unreadable fault
    | included stop =>
      -- a part that cannot be printed is a fault of the document around it
      cases stop with
      | unprintable => exact .load seen (.same _)
      | load seen cause => exact .load seen cause
      | description errors seen => exact .description errors seen
      | unusableName seen => exact .unusableName seen
      | badEscape tooLarge => exact .badEscape tooLarge
      | integerTooLong => exact .integerTooLong
      | recursive => exact .recursive
      | unreadable fault => exact .unreadable fault
      | obstacle o => exact .obstacle o
      | endless => exact .endless

theorem value_placed {inclusion inclusion' : String → Except Stop Datum}
    (seen : FilePath.SeenFrom d x.source source')
    (parts : ∀ target, x.Names target →
      SameEnd (Stop.SeenFrom d) (inclusion target) (inclusion' target)) :
    SameEnd (Stop.SeenFrom d) (value inclusion x.source x.text)
      (value inclusion' source' x.text) := by
  have same : SameEnd (Yaml.ReadFault.Alike (Stop.SeenFrom d)) (Yaml.read inclusion x.text.toList)
      (Yaml.read inclusion' x.text.toList) := by
    apply Yaml.sameEnd_read
    intro root whole target includes
    exact parts target ⟨root, whole, includes⟩
  unfold value
  generalize Yaml.read inclusion _ = first at same ⊢
  generalize Yaml.read inclusion' _ = second at same ⊢
  cases same with
  | ok v => exact .ok v
  | error alike => exact .error (stopOf_seenFrom seen alike)

/-- A document, and every document that it includes at any remove, includes relative paths only
that stay inside. -/
def Sources.AllInside (s : Sources) (d : String) (top : Document) : Prop :=
  ∀ x target, ReflTransGen s.Includes top x → x.Names target → x.LeadsInside d target

theorem included_placed (rooted : s.tree.IsRooted) (hd : IsDirectoryName d)
    (noQuery : '?' ∉ d.toList) (depth : Nat) {location' : String}
    (moved : Moved d x.location location') (given : (FilePath.ofText x.location).parts ≠ [])
    (inside : s.AllInside d x) {target : String} (names : x.Names target) :
    SameEnd (Stop.SeenFrom d) (included s depth x.location target)
      (included (s.placed d) depth location' target) := by
  induction depth generalizing x location' target with
  | zero => exact .error .endless
  | succ depth ih =>
    have leads := inside x target .refl names
    obtain ⟨here, source', there, part, below⟩ := moved.part hd given leads
    unfold included
    rw [here, there, ok_bind, ok_bind]
    refine (read_placed rooted hd part).bind fun text read => ?_
    have named := named_of_read rooted part read
    have kind : isDocument source' = isDocument (x.part target) := by
      rw [below named]
      exact isDocument_below hd.toIsName noQuery leads.named
    rw [kind]
    by_cases document : isDocument (x.part target) = true
    · rw [if_pos document, if_pos document]
      have next : s.Includes x (.at (x.part target) text) := .part names here read document
      have insideToo : s.AllInside d (.at (x.part target) text) :=
        fun y t reached => inside y t (.head next reached)
      exact value_placed (x := .at (x.part target) text) part.seen fun t names =>
        ih (x := .at (x.part target) text) part named insideToo names
    · rw [if_neg document, if_neg document]
      exact .ok _

theorem depth_placed (s : Sources) (d : String) : (s.placed d).depth = s.depth := by
  simp [Sources.depth, Sources.placed, FileTree.placed]

theorem readRoot_placed (rooted : s.tree.IsRooted) (hd : IsDirectoryName d)
    (noQuery : '?' ∉ d.toList) {source : String} (moved : Moved d source source')
    (given : (FilePath.ofText source).parts ≠ []) {text : String}
    (inside : s.AllInside d (.at source text)) :
    SameEnd (Stop.SeenFrom d) (readRoot s source source text)
      (readRoot (s.placed d) source' source' text) := by
  have same : SameEnd (Stop.SeenFrom d) (value (included s s.depth source) source text)
      (value (included (s.placed d) s.depth source') source' text) :=
    value_placed (x := .at source text) moved.seen fun target names =>
      included_placed (x := .at source text) rooted hd noQuery s.depth moved given inside names
  unfold readRoot
  rw [depth_placed]
  split
  · exact .error (.load moved.seen (.same _))
  · refine same.bind fun v _ => ?_
    split
    · split
      · exact .ok _
      · exact .error (.description _ moved.seen)
      · exact .error (.obstacle _)
    · exact .error (.load moved.seen (.same _))

/-- Descriptions are loaded in the same way wherever their files are placed, as long as nothing in
the name of the directory ends a path or makes a URL of it. -/
theorem load_placed (s : Sources) (d p : String) (rooted : s.tree.IsRooted)
    (hd : IsDirectoryName d) (noQuery : '?' ∉ d.toList) (stays : Stays d p)
    (inside : ∀ text, s.read p = .ok text → s.AllInside d (.at p text)) :
    SameEnd (Stop.SeenFrom d) (load s p) (load (s.placed d) (d ++ "/" ++ p)) := by
  have moved := stays.moved hd
  refine (read_placed rooted hd moved).bind fun text read => ?_
  exact readRoot_placed rooted hd noQuery moved (named_of_read rooted moved read) (inside text read)

end Values

section TwoFiles

theorem allInside_twoFiles {d : String} (fits : Fits d (FilePath.ofText "b.yml")) :
    twoFiles.AllInside d (.at "a.raml" "!include b.yml") := by
  have apart : (Uri.counted "b.yml".toList).head? ≠ some '/' := by decide
  intro x target reached names
  rcases reached.cases_head with rfl | ⟨y, first, rest⟩
  · obtain ⟨_, rfl⟩ := Document.names_of_single single_whole names
    exact ⟨rfl, rfl, ⟨rfl, fits, fun _ => apart⟩, fun _ => by decide⟩
  · have part : y = .at "b.yml" "\x7b\x7d" := by
      cases first with
      | part named resolved read _ =>
        obtain ⟨_, rfl⟩ := Document.names_of_single single_whole named
        cases (rfl : resolve "a.raml" "b.yml" = .ok "b.yml").symm.trans resolved
        cases (rfl : twoFiles.read "b.yml" = .ok "\x7b\x7d").symm.trans read
        rfl
    subst part
    have nothing {named : String} : ¬ (Document.at "b.yml" "\x7b\x7d").Names named := by
      intro names
      obtain ⟨mapping, _⟩ := Document.names_of_single single_part names
      exact absurd mapping (by decide)
    rcases rest.cases_head with rfl | ⟨z, next, _⟩
    · exact absurd names nothing
    · cases next with
      | part named _ _ _ => exact absurd named nothing

theorem isRooted_twoFiles : twoFiles.tree.IsRooted :=
  ⟨by decide, by decide⟩

theorem load_placed_twoFiles :
    twoFiles.tree.IsRooted ∧ IsDirectoryName "v1" ∧ '?' ∉ "v1".toList ∧ Stays "v1" "a.raml" ∧
    (∀ text, twoFiles.read "a.raml" = .ok text → twoFiles.AllInside "v1" (.at "a.raml" text)) ∧
    SameEnd (Stop.SeenFrom "v1") (load twoFiles "a.raml")
      (load (twoFiles.placed "v1") ("v1" ++ "/" ++ "a.raml")) := by
  have hd : IsDirectoryName "v1" := ⟨⟨by decide, by decide, by decide⟩, by decide, by decide⟩
  have noQuery : '?' ∉ "v1".toList := by decide
  have stays : Stays "v1" "a.raml" :=
    ⟨rfl, ⟨rfl, rfl, by decide⟩, fun colon => absurd colon (by decide)⟩
  have inside (text : String) (read : twoFiles.read "a.raml" = .ok text) :
      twoFiles.AllInside "v1" (.at "a.raml" text) := by
    cases (rfl : twoFiles.read "a.raml" = .ok "!include b.yml").symm.trans read
    exact allInside_twoFiles ⟨rfl, rfl, by decide⟩
  exact ⟨isRooted_twoFiles, hd, noQuery, stays, inside,
    load_placed twoFiles "v1" "a.raml" isRooted_twoFiles hd noQuery stays inside⟩

/-- In a directory whose name holds a question mark, a part is no document any more. -/
theorem load_placed_query :
    IsDirectoryName "a?b" ∧ Stays "a?b" "a.raml" ∧
    twoFiles.read "a.raml" = .ok "!include b.yml" ∧
    twoFiles.Acyclic (.at "a.raml" "!include b.yml") ∧
    twoFiles.AllInside "a?b" (.at "a.raml" "!include b.yml") ∧
    (load twoFiles "a.raml").isOk = true ∧
    (load (twoFiles.placed "a?b") ("a?b" ++ "/" ++ "a.raml")).isOk = false := by
  refine ⟨⟨⟨by decide, by decide, by decide⟩, by decide, by decide⟩, ?_, rfl, acyclic_twoFiles, ?_,
    by decide +kernel, by decide +kernel⟩
  · exact ⟨rfl, ⟨rfl, rfl, by decide⟩, fun colon => absurd colon (by decide)⟩
  · exact allInside_twoFiles ⟨rfl, rfl, by decide⟩

end TwoFiles

end RamlBridge.Loading

import Mathlib.Data.List.Perm.Subperm
import Mathlib.Logic.Relation
import RamlBridge.Loading.Document
import RamlBridge.Proofs.Outcome
import RamlBridge.Proofs.Yaml.Within

/-!
Which documents include which. Among local files without cycles, a chain of documents that include
each other is never longer than there are files.
-/
namespace RamlBridge.Loading

open Relation

/-- A text that is read as a document: the location that its parts are seen from, and the name that
its faults are told under. -/
structure Document where
  location : String
  source : String
  text : String

def Document.at (source text : String) : Document := ⟨source, source, text⟩

/-- A text that is read as a document of a directory. -/
def Document.under (directory source text : String) : Document :=
  ⟨((FilePath.ofText directory).append ⟨"", ["_"]⟩).toText, source, text⟩

def Document.Names (d : Document) (target : String) : Prop :=
  ∃ root, Yaml.Node.ofTokens (Yaml.tokens d.text.toList) = .ok (some root) ∧ root.Includes target

/-- The tag and the text of a document that is a single node; an empty collection has no text. -/
def Document.single? (d : Document) : Option (String × String) :=
  match Yaml.Node.ofTokens (Yaml.tokens d.text.toList) with
  | .ok (some (.scalar _ tag text)) => some (tag, text)
  | .ok (some (.sequence _ tag [])) | .ok (some (.mapping _ tag [])) => some (tag, "")
  | _ => none

theorem Document.names_of_single {d : Document} {tag text target : String}
    (h : d.single? = some (tag, text)) (names : d.Names target) :
    tag = Yaml.Tag.inclusion ∧ target = text := by
  obtain ⟨root, whole, n, within, marked, said⟩ := names
  unfold Document.single? at h
  rw [whole] at h
  split at h
  · next same =>
    cases h
    cases same
    cases within.eq_root rfl
    cases said
    exact ⟨marked, rfl⟩
  · next same =>
    cases same
    cases within.eq_root rfl
    cases said
  · next same =>
    cases same
    cases within.eq_root rfl
    cases said with
    | value member => cases member
  · cases h

theorem Document.whole_of_single {source text tag said : String}
    (h : (Document.at source text).single? = some (tag, said)) (given : said ≠ "") :
    ∃ number, Yaml.Node.ofTokens (Yaml.tokens text.toList) =
      .ok (some (.scalar number tag said)) := by
  unfold Document.single? at h
  split at h
  · next number _ _ whole =>
    cases h
    exact ⟨number, whole⟩
  · cases h
    exact absurd rfl given
  · cases h
    exact absurd rfl given
  · cases h

namespace Sources

variable {s : Sources}

/-- A document that is a part of another one, and is read as a document itself. -/
inductive Includes (s : Sources) (d : Document) : Document → Prop
  | part {target source text} : d.Names target → resolve d.location target = .ok source →
      s.read source = .ok text → isDocument source = true → Includes s d (.at source text)

def Stands (s : Sources) (d : Document) (place : Place) : Prop :=
  s.tree.locate (FilePath.ofText d.location) = .ok place

/-- No document that is reached from this one includes, at any remove, one at its own place. -/
def Acyclic (s : Sources) (top : Document) : Prop :=
  ∀ d p place, ReflTransGen s.Includes top d → TransGen s.Includes d p → s.Stands d place →
    ¬ s.Stands p place

/-- A web without pages answers every request with the same page. -/
theorem page_eq_missing {web : Web} (offline : web.pages = []) {r : Uri.Request} {page : Page}
    (h : web.page r = .ok page) : page = .missing := by
  simp only [Web.page, offline, Entries.find?, Option.orElse_none, Option.getD_none] at h
  split_ifs at h
  exact (Except.ok.inj h).symm

theorem get_ne_ok {web : Web} (offline : web.pages = []) (url text : String) :
    web.get url ≠ .ok text := by
  intro h
  obtain ⟨r, _, h⟩ := bind_eq_ok h
  unfold Web.mostRedirects Web.getWithin at h
  obtain ⟨page, hpage, h⟩ := bind_eq_ok h
  rw [page_eq_missing offline hpage] at h
  cases h

theorem readPage_ne_ok (offline : s.web.pages = []) (url text : String) :
    s.readPage url ≠ .ok text := by
  intro h
  unfold readPage at h
  split at h
  · next answer => exact get_ne_ok offline url _ answer
  · split at h
    · cases h
    · cases h

theorem mem_files_of_find? {t : FileTree} {place : Place} {content : List UInt8}
    (h : t.find? place = some (.file content)) : place ∈ t.files.map Prod.fst := by
  unfold FileTree.find? at h
  split at h
  · next f found =>
    have same := List.find?_some found
    exact List.mem_map.mpr ⟨f, List.mem_of_find?_eq_some found, eq_of_beq same⟩
  · split at h
    · cases h
    · cases h

theorem look_of_readText {t : FileTree} {path : FilePath} {text : String}
    (h : t.readText path = .ok text) : ∃ content, t.look path = .ok (.file content) := by
  unfold FileTree.readText at h
  split at h
  · cases h
  · next content found =>
    unfold FileTree.read at found
    split at found
    · next file looked => exact ⟨file, looked⟩
    · cases found
    · cases found

theorem locate_of_readText {t : FileTree} {path : FilePath} {text : String}
    (h : t.readText path = .ok text) :
    ∃ place ∈ t.files.map Prod.fst, t.locate path = .ok place := by
  obtain ⟨content, looked⟩ := look_of_readText h
  obtain ⟨place, located, there⟩ := bind_eq_ok looked
  refine ⟨place, ?_, located⟩
  split at there
  · next e present =>
    cases there
    exact mem_files_of_find? present
  · cases there

theorem readText_of_readFile {source text : String} (h : s.readFile source = .ok text) :
    s.tree.readText (FilePath.ofText source) = .ok text := by
  unfold readFile at h
  dsimp only at h
  split at h
  · cases h
  · cases h
  · split at h
    · next read =>
      cases h
      exact read
    · cases h

theorem stands_of_read (offline : s.web.pages = []) {source text : String}
    (h : s.read source = .ok text) :
    ∃ place ∈ s.tree.files.map Prod.fst, s.Stands (.at source text) place := by
  unfold Sources.read at h
  split at h
  · exact absurd h (readPage_ne_ok offline source text)
  · exact locate_of_readText (readText_of_readFile h)

/-- There is no cycle where the parts of a document include nothing themselves. -/
theorem acyclic_of_parts {top : Document} (parts : ∀ p, s.Includes top p →
    (∀ q, ¬ s.Includes p q) ∧ ∀ place, s.Stands top place → ¬ s.Stands p place) :
    s.Acyclic top := by
  intro d p place reached later stands
  rcases reached.cases_head with rfl | ⟨q, first, rest⟩
  · obtain ⟨q, first, rest⟩ := TransGen.head'_iff.mp later
    rcases rest.cases_head with rfl | ⟨x, next, _⟩
    · exact (parts q first).2 place stands
    · exact absurd next ((parts q first).1 x)
  · rcases rest.cases_head with rfl | ⟨x, next, _⟩
    · obtain ⟨x, next, _⟩ := TransGen.head'_iff.mp later
      exact absurd next ((parts q first).1 x)
    · exact absurd next ((parts q first).1 x)

/-- Without files there is nothing to include. -/
theorem acyclic_of_no_files (offline : s.web.pages = []) (empty : s.tree.files = [])
    (top : Document) : s.Acyclic top := by
  refine acyclic_of_parts fun p part => ?_
  cases part with
  | part _ _ read _ =>
    obtain ⟨place, file, _⟩ := stands_of_read offline read
    rw [empty] at file
    cases file

/-- A chain of inclusions from a document on, with the places of the files behind its start. -/
structure Trail (s : Sources) (top : Document) (passed : List Place) (d : Document) : Prop where
  reached : ReflTransGen s.Includes top d
  distinct : passed.Nodup
  files : passed ⊆ s.tree.files.map Prod.fst
  behind : ∀ place ∈ passed, ∃ p, s.Stands p place ∧ ReflTransGen s.Includes top p ∧
    ReflTransGen s.Includes p d

variable {top d p : Document} {passed : List Place}

theorem Trail.start (s : Sources) (d : Document) : s.Trail d [] d where
  reached := .refl
  distinct := .nil
  files := List.nil_subset _
  behind := by simp

theorem Trail.length_le (h : s.Trail top passed d) : passed.length ≤ s.tree.files.length := by
  have within := (List.subperm_of_subset h.distinct h.files).length_le
  rwa [List.length_map] at within

theorem Trail.step (offline : s.web.pages = []) (acyclic : s.Acyclic top)
    (h : s.Trail top passed d) (next : s.Includes d p) :
    ∃ place, s.Trail top (place :: passed) p := by
  have reached : ReflTransGen s.Includes top p := h.reached.tail next
  obtain ⟨place, file, stands⟩ : ∃ place ∈ s.tree.files.map Prod.fst, s.Stands p place := by
    cases next with
    | part _ _ read _ => exact stands_of_read offline read
  have fresh : place ∉ passed := by
    intro again
    -- a document that was passed here would include one at its own place
    obtain ⟨q, standsToo, fromTop, onward⟩ := h.behind place again
    exact acyclic q p place fromTop (.tail' onward next) standsToo stands
  refine ⟨place, reached, List.nodup_cons.mpr ⟨fresh, h.distinct⟩, ?_, ?_⟩
  · exact List.cons_subset.mpr ⟨file, h.files⟩
  · refine List.forall_mem_cons.mpr ⟨⟨p, stands, reached, .refl⟩, ?_⟩
    intro other before
    obtain ⟨q, standsToo, fromTop, onward⟩ := h.behind other before
    exact ⟨q, standsToo, fromTop, onward.tail next⟩

end Sources

end RamlBridge.Loading

import RamlBridge.Proofs.Loading.Inclusion
import RamlBridge.Proofs.Raml.Obstacles
import RamlBridge.Proofs.Yaml.Faults

/-!
How the loading of a description ends. It ends with the description, or with a failure that tells
what could not be loaded or what does not fit, unless something in the documents escapes both.
Nothing is said of a document in which an alias stands inside of what it stands for: the value that
it makes has no end.
-/
namespace RamlBridge.Loading

open Yaml (isPrintable)

/-- A document breaks off at a fault of its syntax. -/
def Document.BreaksAt (d : Document) (fault : Yaml.SyntaxFault) : Prop :=
  Yaml.Node.ofTokens (Yaml.tokens d.text.toList) = .error fault

/-- A scalar of a document whose text has no value of its tag. -/
def Document.HasUnreadable (d : Document) (fault : Yaml.ScalarFault) : Prop :=
  ∃ root n, Yaml.Node.ofTokens (Yaml.tokens d.text.toList) = .ok (some root) ∧
    Yaml.Node.Within root n ∧ n.Unreadable fault

/-- How the reading of a document stops, by what stands in it and in its parts: apart from faults
that are told, at an escape without a character, a number of its version that is too long, an alias
inside of what it stands for, a scalar without a value, or a part that cannot be reached. -/
inductive Sources.Stops (s : Sources) : Document → Stop → Prop
  | unprintable {d} : d.text.toList.all isPrintable = false → Stops s d .unprintable
  | malformed {d} : Stops s d (.load d.source (some .yamlSyntax))
  | badEscape {d tooLarge} : d.BreaksAt (if tooLarge then .codeTooLarge else .noCharacter) →
      Stops s d (.badEscape tooLarge)
  | integerTooLong {d} : d.BreaksAt .integerTooLong → Stops s d .integerTooLong
  | recursive {d} : d.BreaksAt .recursive → Stops s d .recursive
  | unreadable {d fault} : d.HasUnreadable fault → Stops s d (.unreadable fault)
  | badReference {d target} : d.Names target → resolve d.location target = .error .badReference →
      Stops s d .badReference
  | noSource {d target source stop} : d.Names target → resolve d.location target = .ok source →
      s.read source = .error stop → Stops s d stop
  | part {d p stop} : s.Includes d p → Stops s p stop → stop ≠ .unprintable → Stops s d stop

theorem resolve_error {location target : String} {stop : Stop}
    (h : resolve location target = .error stop) : stop = .badReference := by
  unfold resolve at h
  split at h
  · cases h
  · split at h
    · split at h
      · cases h
      · exact (Except.error.inj h).symm
    · cases h

theorem Sources.stops_of_value {s : Sources} {d : Document} {inclusion : String → Except Stop Datum}
    (parts : ∀ target stop, d.Names target → inclusion target = .error stop →
      stop ≠ .unprintable → s.Stops d stop) {stop : Stop}
    (h : value inclusion d.source d.text = .error stop) : s.Stops d stop := by
  unfold value at h
  split at h
  · cases h
  · next fault found =>
    cases h
    cases Yaml.accounts_of_read found with
    | unprintable plain => exact .unprintable plain
    | broken broken =>
      rename_i fault
      cases fault with
      | malformed => exact .malformed
      | noCharacter => exact .badEscape broken
      | codeTooLarge => exact .badEscape broken
      | integerTooLong => exact .integerTooLong broken
      | recursive => exact .recursive broken
    | valueless whole explained =>
      cases explained with
      | malformed => exact .malformed
      | unreadable within fault => exact .unreadable ⟨_, _, whole, within, fault⟩
      | included names failed =>
        rename_i target e
        have stops := parts target e ⟨_, whole, names⟩ failed
        -- a part that cannot be printed is a fault of this document
        cases e with
        | unprintable => exact .malformed
        | _ => exact stops nofun

theorem Sources.stops_of_included {s : Sources} (offline : s.web.pages = []) {top : Document}
    (acyclic : s.Acyclic top) {depth : Nat} {passed : List Place} {d : Document}
    (trail : s.Trail top passed d) (room : s.tree.files.length < depth + passed.length)
    {stop : Stop} (h : value (included s depth d.location) d.source d.text = .error stop) :
    s.Stops d stop := by
  -- along a trail there is a file left for every level, so that the depth never runs out
  induction depth generalizing passed d stop with
  | zero =>
    have full := trail.length_le
    omega
  | succ depth ih =>
    refine stops_of_value (fun target stop names failed printable => ?_) h
    unfold included at failed
    cases resolved : resolve d.location target with
    | error e =>
      rw [resolved] at failed
      cases failed
      cases resolve_error resolved
      exact .badReference names resolved
    | ok source =>
      rw [resolved, ok_bind] at failed
      cases read : s.read source with
      | error e =>
        rw [read] at failed
        cases failed
        exact .noSource names resolved read
      | ok text =>
        rw [read, ok_bind] at failed
        split at failed
        · next document =>
          have next : s.Includes d (.at source text) := .part names resolved read document
          obtain ⟨place, onward⟩ := trail.step offline acyclic next
          have room : s.tree.files.length < depth + (place :: passed).length := by
            rw [List.length_cons]
            omega
          exact .part next (ih onward room failed) printable
        · cases failed

/-- A source that cannot be read is told, unless it is a page that cannot be asked for or a name
that no file can have. -/
theorem Sources.read_error {s : Sources} {source : String} {stop : Stop}
    (h : s.read source = .error stop) :
    (∃ cause, stop = .load source cause) ∨ (∃ fault, stop = .page fault) ∨
      ∃ fault, stop = .unusableName fault := by
  unfold Sources.read at h
  split at h
  · unfold Sources.readPage at h
    split at h
    · cases h
    · split at h
      · cases h
        exact .inl ⟨_, rfl⟩
      · cases h
        exact .inr (.inl ⟨_, rfl⟩)
  · unfold Sources.readFile at h
    dsimp only at h
    split at h
    · cases h
      exact .inr (.inr ⟨_, rfl⟩)
    · cases h
      exact .inl ⟨_, rfl⟩
    · split at h
      · cases h
      · cases h
        exact .inl ⟨_, rfl⟩

/-- What is asked to be loaded: a source, or a text as a document of a directory. -/
inductive Request where
  | source (name : String)
  | text (directory name content : String)

namespace Request

def outcome (s : Sources) : Request → Except Stop Raml.Root
  | .source name => load s name
  | .text directory name content => loadText s directory name content

def document (s : Sources) : Request → Except Stop Document
  | .source name => (s.read name).map (.at name)
  | .text directory name content => .ok (.under directory name content)

/-- What stops a request without being told: a source that cannot be asked for, a fault in the
document or in its parts, or a value in the description that stops its being read. -/
inductive Escapes (s : Sources) (r : Request) : Stop → Prop
  | page {fault} : r.document s = .error (.page fault) → Escapes s r (.page fault)
  | unusableName {fault} : r.document s = .error (.unusableName fault) →
      Escapes s r (.unusableName fault)
  | document {d stop} : r.document s = .ok d → s.Stops d stop →
      (∀ source cause, stop ≠ .load source cause) → stop ≠ .recursive → Escapes s r stop
  | description {d v o} : r.document s = .ok d →
      value (included s s.depth d.location) d.source d.text = .ok v → Raml.Hinders v o →
      Escapes s r (.obstacle o)

end Request

/-- An outcome that is told: a description, or a failure to load or to fit one. -/
inductive Told : Except Stop Raml.Root → Prop
  | loaded (root) : Told (.ok root)
  | notLoaded (source cause) : Told (.error (.load source cause))
  | notFitting (source errors) : Told (.error (.failure (.description source errors)))

/-- What nothing is said of: an alias inside of what it stands for. -/
def IsSetAside (outcome : Except Stop Raml.Root) : Prop := outcome = .error .recursive

/-- How a request ends. -/
inductive Request.Ends (s : Sources) (r : Request) (outcome : Except Stop Raml.Root) : Prop
  | told : Told outcome → Ends s r outcome
  | setAside : IsSetAside outcome → Ends s r outcome
  | escapes {stop} : outcome = .error stop → r.Escapes s stop → Ends s r outcome

variable {s : Sources} {r : Request} {d : Document} {stop : Stop}

theorem ends_of_stops (hd : r.document s = .ok d) (h : s.Stops d stop) :
    r.Ends s (.error stop) := by
  by_cases told : ∃ source cause, stop = .load source cause
  · obtain ⟨source, cause, rfl⟩ := told
    exact .told (.notLoaded source cause)
  by_cases recursive : stop = .recursive
  · exact .setAside (congrArg Except.error recursive)
  · exact .escapes rfl
      (.document hd h (fun source cause same => told ⟨source, cause, same⟩) recursive)

theorem ends_readRoot (offline : s.web.pages = []) (hd : r.document s = .ok d)
    (acyclic : s.Acyclic d) : r.Ends s (readRoot s d.location d.source d.text) := by
  unfold readRoot
  split
  · exact .told (.notLoaded _ _)
  · cases valued : value (included s s.depth d.location) d.source d.text with
    | error stop =>
      have room : s.tree.files.length < s.depth + ([] : List Place).length := by
        rw [Sources.depth, List.length_nil]
        omega
      exact ends_of_stops hd (Sources.stops_of_included offline acyclic (.start s d) room valued)
    | ok v =>
      rw [ok_bind]
      split
      · cases stopped : Raml.Root.read _ with
        | accepted root => exact .told (.loaded root)
        | refused faults => exact .told (.notFitting _ _)
        | stopped o =>
          exact .escapes rfl (.description hd valued (Raml.Root.stopsOnly_read _ o stopped))
      · exact .told (.notLoaded _ _)

theorem ends_outcome (offline : s.web.pages = [])
    (acyclic : ∀ d, r.document s = .ok d → s.Acyclic d) : r.Ends s (r.outcome s) := by
  have opened (d : Document) (hd : r.document s = .ok d)
      (same : r.outcome s = readRoot s d.location d.source d.text) : r.Ends s (r.outcome s) := by
    rw [same]
    exact ends_readRoot offline hd (acyclic d hd)
  cases r with
  | text directory name content => exact opened _ rfl rfl
  | source name =>
    cases read : s.read name with
    | ok text =>
      refine opened (.at name text) ?_ ?_
      · rw [Request.document, read, map_ok]
      · rw [Request.outcome, load, read, ok_bind]
        rfl
    | error stop =>
      have unopened : (Request.source name).document s = .error stop := by
        rw [Request.document, read, map_error]
      have stopped : (Request.source name).outcome s = .error stop := by
        rw [Request.outcome, load, read, error_bind]
      rcases Sources.read_error read with ⟨cause, rfl⟩ | ⟨fault, rfl⟩ | ⟨fault, rfl⟩
      · exact .told (stopped ▸ .notLoaded name cause)
      · exact .escapes stopped (.page unopened)
      · exact .escapes stopped (.unusableName unopened)

/-- Whatever is loaded from local files that do not include each other in a circle, the outcome is
told, unless it is set aside or something about the source or in the documents escapes. -/
theorem told_or_escapes (s : Sources) (offline : s.web.pages = []) (r : Request)
    (acyclic : ∀ d, r.document s = .ok d → s.Acyclic d) :
    Told (r.outcome s) ∨ IsSetAside (r.outcome s) ∨
      ∃ stop, r.outcome s = .error stop ∧ r.Escapes s stop := by
  cases ends_outcome offline acyclic with
  | told told => exact .inl told
  | setAside aside => exact .inr (.inl aside)
  | escapes stopped escapes => exact .inr (.inr ⟨_, stopped, escapes⟩)

section TwoFiles

def twoFiles : Sources where
  tree := ⟨⟨"/", ["work"]⟩, [], [
    (⟨some 0, ["a.raml"]⟩, [33, 105, 110, 99, 108, 117, 100, 101, 32, 98, 46, 121, 109, 108]),
    (⟨some 0, ["b.yml"]⟩, [123, 125])]⟩
  web := ⟨[], true⟩

theorem single_whole : (Document.at "a.raml" "!include b.yml").single? =
    some (Yaml.Tag.inclusion, "b.yml") := by
  decide +kernel

theorem single_part : (Document.at "b.yml" "\x7b\x7d").single? = some (Yaml.Tag.mapping, "") := by
  decide +kernel

theorem acyclic_twoFiles : twoFiles.Acyclic (.at "a.raml" "!include b.yml") := by
  refine Sources.acyclic_of_parts fun p part => ?_
  cases part with
  | part names resolved read _ =>
    obtain ⟨_, rfl⟩ := Document.names_of_single single_whole names
    cases (rfl : resolve "a.raml" "b.yml" = .ok "b.yml").symm.trans resolved
    cases (rfl : twoFiles.read "b.yml" = .ok "\x7b\x7d").symm.trans read
    constructor
    · rintro q ⟨names, _, _, _⟩
      obtain ⟨mapping, _⟩ := Document.names_of_single single_part names
      exact absurd mapping (by decide)
    · intro place whole part
      have here : twoFiles.Stands (.at "a.raml" "!include b.yml") ⟨some 0, ["a.raml"]⟩ := rfl
      have there : twoFiles.Stands (.at "b.yml" "\x7b\x7d") ⟨some 0, ["b.yml"]⟩ := rfl
      cases here.symm.trans whole
      exact absurd (Except.ok.inj (there.symm.trans part)) (by decide)

theorem told_or_escapes_twoFiles : twoFiles.web.pages = [] ∧
    (∀ d, (Request.source "a.raml").document twoFiles = .ok d → twoFiles.Acyclic d) ∧
    (Told ((Request.source "a.raml").outcome twoFiles) ∨
      IsSetAside ((Request.source "a.raml").outcome twoFiles) ∨
      ∃ stop, (Request.source "a.raml").outcome twoFiles = .error stop ∧
        (Request.source "a.raml").Escapes twoFiles stop) := by
  have acyclic (d : Document) (hd : (Request.source "a.raml").document twoFiles = .ok d) :
      twoFiles.Acyclic d := by
    have read : twoFiles.read "a.raml" = .ok "!include b.yml" := rfl
    rw [Request.document, read, map_ok] at hd
    cases hd
    exact acyclic_twoFiles
  exact ⟨rfl, acyclic, told_or_escapes twoFiles rfl (.source "a.raml") acyclic⟩

end TwoFiles

/-- A bell in a text is not told, although there is nothing to include. -/
theorem loadText_unprintable :
    let s : Sources := ⟨⟨⟨"/", ["work"]⟩, [], []⟩, ⟨[], true⟩⟩
    let r : Request := .text "/work" "<string>" "title: \x07\n"
    (∀ d, r.document s = .ok d → s.Acyclic d) ∧ r.outcome s = .error .unprintable ∧
      ¬ Told (r.outcome s) := by
  intro s r
  have stopped : r.outcome s = .error .unprintable := rfl
  refine ⟨fun d _ => Sources.acyclic_of_no_files rfl rfl d, stopped, ?_⟩
  rw [stopped]
  rintro ⟨⟩

end RamlBridge.Loading

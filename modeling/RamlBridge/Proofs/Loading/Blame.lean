import RamlBridge.Proofs.Loading.ByteOrderMark
import RamlBridge.Proofs.Loading.Outcomes
import RamlBridge.Proofs.Yaml.SameParts

/-!
Which file a failure to load names. The reading of a document stops at the first of its parts that
fails, and the failure of that part goes through as it is, so that it names the file that failed by
itself. Only a part that cannot be printed is a fault of the document that includes it.
-/
namespace RamlBridge.Loading

open Relation

namespace Sources

/-- The value of a source that is read as a document. -/
def datum (s : Sources) (source : String) : Except Stop Datum := do
  value (included s s.depth source) source (← s.read source)

def StopsAt (s : Sources) (x text target : String) (stop : Stop) : Prop :=
  Yaml.read (Yaml.telling (included s s.depth x)) text.toList =
    .error (.valueless (.included (target, stop)))

/-- The reading of a source comes to a stop at a part, for which another source stands. -/
def Halts (s : Sources) (x y : String) : Prop :=
  ∃ text target stop, s.read x = .ok text ∧ s.StopsAt x text target stop ∧ resolve x target = .ok y

/-- A source fails by itself: it cannot be read, it names a part by a reference that cannot be
resolved, or its text cannot be parsed. -/
inductive Fails (s : Sources) (x : String) : Stop → Prop
  | unread {stop} : s.read x = .error stop → Fails s x stop
  | unresolved {text target stop} : s.read x = .ok text → s.StopsAt x text target stop →
      resolve x target = .error stop → Fails s x stop
  | unparsed {text fault} : s.read x = .ok text →
      Yaml.read (included s s.depth x) text.toList = .error fault →
      (∀ stop, fault ≠ .valueless (.included stop)) → Fails s x (stopOf x fault)

/-- What stops the reading of a source: the failure of a source at the end of a chain of inclusions,
or the failure to load one that includes a part there which cannot be printed. -/
inductive Culprit (s : Sources) (p : String) : Stop → Prop
  | failing {x stop} : ReflTransGen s.Halts p x → s.Fails x stop → Culprit s p stop
  | including {x y} : ReflTransGen s.Halts p x → s.Halts x y → s.Fails y .unprintable →
      Culprit s p (.load x (some .yamlSyntax))

variable {s : Sources} {x y : String} {stop : Stop}

/-- How the stop of a part stops the document that includes it. -/
def passed (x : String) (stop : Stop) : Stop :=
  stopOf x (.valueless (.included stop))

theorem passed_of_printable (h : stop ≠ .unprintable) : passed x stop = stop := by
  cases stop with
  | unprintable => exact absurd rfl h
  | _ => rfl

theorem datum_of_stopsAt {text target : String} (read : s.read x = .ok text)
    (h : s.StopsAt x text target stop) : s.datum x = .error (passed x stop) := by
  rw [datum, read, ok_bind, value, (Yaml.read_of_telling h).1]
  rfl

/-- What a source fails by stops its own reading. -/
theorem datum_of_fails (h : s.Fails x stop) : s.datum x = .error stop := by
  cases h with
  | unread read => rw [datum, read, error_bind]
  | unresolved read stops unresolved =>
    rw [datum_of_stopsAt read stops, resolve_error unresolved]
    rfl
  | unparsed read fault own => rw [datum, read, ok_bind, value, fault]

section Depth

variable {top d : Document} {before : List Place}

theorem value_congr {inclusion inclusion' : String → Except Stop Datum}
    (same : ∀ target, d.Names target → inclusion target = inclusion' target) :
    value inclusion d.source d.text = value inclusion' d.source d.text := by
  have read : Yaml.read inclusion d.text.toList = Yaml.read inclusion' d.text.toList := by
    apply Yaml.read_congr
    intro root whole target includes
    exact same target ⟨root, whole, includes⟩
  simp only [value, read]

/-- Along a trail there is a file left for every level, so that no more levels make a difference. -/
theorem value_depth (offline : s.web.pages = []) (acyclic : s.Acyclic top)
    (trail : s.Trail top before d) {depth deeper : Nat}
    (room : s.tree.files.length < depth + before.length) (deep : depth ≤ deeper) :
    value (included s depth d.location) d.source d.text =
      value (included s deeper d.location) d.source d.text := by
  induction depth generalizing before d deeper with
  | zero =>
    have full := trail.length_le
    omega
  | succ depth ih =>
    obtain ⟨deeper, rfl⟩ : ∃ n, deeper = n + 1 := ⟨deeper - 1, by omega⟩
    refine value_congr fun target names => ?_
    unfold included
    cases resolved : resolve d.location target with
    | error e => simp only [error_bind]
    | ok source =>
      cases read : s.read source with
      | error e => simp only [read, ok_bind, error_bind]
      | ok text =>
        simp only [read, ok_bind]
        split
        · next document =>
          obtain ⟨place, onward⟩ :=
            trail.step offline acyclic (.part names resolved read document)
          have room : s.tree.files.length < depth + (place :: before).length := by
            rw [List.length_cons]
            omega
          exact ih onward room (by omega)
        · rfl

end Depth

/-- No document that is read from a source includes itself, and none that it includes. -/
def AcyclicFrom (s : Sources) (x : String) : Prop :=
  ∀ text, s.read x = .ok text → s.Acyclic (.at x text)

/-- Where the reading of a source stops at a part, the part cannot be read, or it is a document that
stops, one level down. -/
theorem halts_cases (h : s.Halts x y) : ∃ text stop, s.read x = .ok text ∧
    s.datum x = .error (passed x stop) ∧ (s.read y = .error stop ∨
      ∃ content, s.read y = .ok content ∧ s.Includes (.at x text) (.at y content) ∧
        value (included s (s.tree.files.length + s.web.pages.length) y) y content =
          .error stop) := by
  obtain ⟨text, target, stop, read, stops, resolved⟩ := h
  refine ⟨text, stop, read, datum_of_stopsAt read stops, ?_⟩
  obtain ⟨root, whole, includes, failed⟩ := (Yaml.read_of_telling stops).2
  have names : (Document.at x text).Names target := ⟨root, whole, includes⟩
  unfold Sources.depth included at failed
  rw [resolved, ok_bind] at failed
  cases readPart : s.read y with
  | error e =>
    rw [readPart, error_bind] at failed
    cases failed
    exact .inl rfl
  | ok content =>
    rw [readPart, ok_bind] at failed
    split at failed
    · next document => exact .inr ⟨content, rfl, .part names resolved readPart document, failed⟩
    · cases failed

theorem AcyclicFrom.halts (acyclic : s.AcyclicFrom x) (h : s.Halts x y) : s.AcyclicFrom y := by
  intro content read
  obtain ⟨text, stop, whole, _, unread | ⟨content', read', includes, _⟩⟩ := halts_cases h
  · cases read.symm.trans unread
  · cases read.symm.trans read'
    exact fun d p place reached => acyclic text whole d p place (.head includes reached)

/-- Where the reading of a source stops at a part, it stops as the part does, unless that cannot be
printed. -/
theorem datum_of_halts (offline : s.web.pages = []) (acyclic : s.AcyclicFrom x)
    (h : s.Halts x y) : ∃ stop, s.datum y = .error stop ∧ s.datum x = .error (passed x stop) := by
  obtain ⟨text, stop, read, stopped, unread | ⟨content, readPart, includes, failed⟩⟩ :=
    halts_cases h
  · exact ⟨stop, by rw [datum, unread, error_bind], stopped⟩
  · refine ⟨stop, ?_, stopped⟩
    obtain ⟨place, onward⟩ := (Trail.start s (.at x text)).step offline (acyclic text read) includes
    rw [datum, readPart, ok_bind, ← failed]
    refine (value_depth offline (acyclic text read) onward ?_ ?_).symm
    · rw [List.length_singleton]
      omega
    · rw [Sources.depth]
      omega

theorem acyclicFrom_of_chain {p : String} (chain : ReflTransGen s.Halts p x)
    (acyclic : s.AcyclicFrom p) : s.AcyclicFrom x := by
  induction chain with
  | refl => exact acyclic
  | tail _ step ih => exact ih.halts step

/-- A stop that is told goes up a chain of inclusions as it is. -/
theorem datum_of_chain (offline : s.web.pages = []) {p : String}
    (chain : ReflTransGen s.Halts p x) (acyclic : s.AcyclicFrom p) (h : s.datum x = .error stop)
    (printable : stop ≠ .unprintable) : s.datum p = .error stop := by
  induction chain using ReflTransGen.head_induction_on with
  | refl => exact h
  | head step _ ih =>
    obtain ⟨stop', below, above⟩ := datum_of_halts offline acyclic step
    cases below.symm.trans (ih (acyclic.halts step))
    rw [above, passed_of_printable printable]

/-- A source whose reading stops fails by itself, or its reading stops at a part. -/
theorem fails_or_halts (h : s.datum x = .error stop) : s.Fails x stop ∨ ∃ y, s.Halts x y := by
  unfold datum at h
  cases read : s.read x with
  | error e =>
    rw [read] at h
    cases h
    exact .inl (.unread read)
  | ok text =>
    rw [read, ok_bind, value] at h
    split at h
    · cases h
    · next fault found =>
      cases h
      by_cases own : ∀ e, fault ≠ .valueless (.included e)
      · exact .inl (.unparsed read found own)
      · -- the reading stopped at an inclusion, by its reference or by the part
        obtain ⟨e, rfl⟩ : ∃ e, fault = .valueless (.included e) := by
          simpa only [not_forall, Classical.not_not] using own
        obtain ⟨target, stops⟩ := Yaml.target_of_read found
        cases resolved : resolve x target with
        | ok y => exact .inr ⟨y, text, target, e, read, stops, resolved⟩
        | error bad =>
          obtain ⟨_, _, _, failed⟩ := (Yaml.read_of_telling stops).2
          unfold Sources.depth included at failed
          rw [resolved, error_bind] at failed
          cases failed
          cases resolve_error resolved
          exact .inl (.unresolved read stops resolved)

theorem passed_ne_unprintable : passed x stop ≠ .unprintable := by
  cases stop <;> nofun

/-- A part that is a document and stops unprintably has an unprintable text itself. -/
theorem fails_of_unprintable (offline : s.web.pages = []) (acyclic : s.AcyclicFrom x)
    (h : s.datum x = .error .unprintable) : s.Fails x .unprintable := by
  rcases fails_or_halts h with fails | ⟨y, halts⟩
  · exact fails
  · obtain ⟨stop, _, above⟩ := datum_of_halts offline acyclic halts
    exact absurd (Except.error.inj (above.symm.trans h)) passed_ne_unprintable

theorem Culprit.head (step : s.Halts x y) (h : s.Culprit y stop) : s.Culprit x stop := by
  cases h with
  | failing chain fails => exact .failing (.head step chain) fails
  | including chain last fails => exact .including (.head step chain) last fails

theorem culprit_of_datum (offline : s.web.pages = []) {top : Document} {before : List Place}
    {text : String} (acyclic : s.Acyclic top) (trail : s.Trail top before (.at x text))
    {depth : Nat} (room : s.tree.files.length < depth + before.length) (read : s.read x = .ok text)
    (h : s.datum x = .error stop) : s.Culprit x stop := by
  -- over the levels that are left; the document at the top is acyclic for all of them
  induction depth generalizing x text before stop with
  | zero =>
    have full := trail.length_le
    omega
  | succ depth ih =>
    rcases fails_or_halts h with fails | ⟨y, halts⟩
    · exact .failing .refl fails
    · have here : s.AcyclicFrom x := by
        intro text' read'
        cases read.symm.trans read'
        exact fun d p place reached => acyclic d p place (trail.reached.trans reached)
      obtain ⟨below, stopped, above⟩ := datum_of_halts offline here halts
      cases above.symm.trans h
      by_cases printable : below = .unprintable
      · subst printable
        exact .including .refl halts (fails_of_unprintable offline (here.halts halts) stopped)
      · rw [passed_of_printable printable]
        obtain ⟨_, _, whole, _, unread | ⟨content, readPart, includes, _⟩⟩ := halts_cases halts
        · rw [datum, unread, error_bind] at stopped
          cases stopped
          exact .failing (.single halts) (.unread unread)
        · cases read.symm.trans whole
          obtain ⟨place, onward⟩ := trail.step offline acyclic includes
          refine (ih onward ?_ readPart stopped).head halts
          rw [List.length_cons]
          omega

theorem load_inj {source source' : String} {cause cause' : Option Cause}
    (h : Stop.load source cause = .load source' cause') : source = source' := by
  simp only [Stop.load, Stop.failure.injEq, Failure.load.injEq] at h
  exact h.1

/-- A failure to load by which a source fails names it. -/
theorem Fails.named {named : String} {cause : Option Cause} (h : s.Fails x (.load named cause)) :
    named = x := by
  generalize told : Stop.load named cause = stop at h
  cases h with
  | unread read =>
    rcases read_error read with ⟨_, rfl⟩ | ⟨_, rfl⟩ | ⟨_, rfl⟩
    · exact load_inj told
    · cases told
    · cases told
  | unresolved _ _ bad =>
    cases resolve_error bad
    cases told
  | @unparsed _ fault _ _ own =>
    cases fault with
    | unprintable => cases told
    | broken fault =>
      cases fault with
      | malformed => exact load_inj told
      | noCharacter | codeTooLarge | integerTooLong | recursive => cases told
    | valueless fault =>
      cases fault with
      | malformed => exact load_inj told
      | unreadable => cases told
      | included stop => exact absurd rfl (own stop)

end Sources

variable {s : Sources} {p : String}

theorem load_of_datum (supported : ∀ text, s.read p = .ok text → HasSupportedHeader text)
    {stop : Stop} (h : s.datum p = .error stop) : load s p = .error stop := by
  unfold Sources.datum at h
  unfold load
  cases read : s.read p with
  | error e =>
    rw [read, error_bind] at h
    rw [error_bind]
    cases h
    rfl
  | ok text =>
    rw [read, ok_bind] at h
    unfold readRoot
    simp only [ok_bind, (supported text read).filter_eq_none, h, error_bind]

/-- A failure to load is that of the document's value, or the value is none of the right kind. -/
theorem datum_of_load (supported : ∀ text, s.read p = .ok text → HasSupportedHeader text)
    {named : String} {cause : Option Cause} (h : load s p = .error (.load named cause)) :
    s.datum p = .error (.load named cause) ∨ named = p ∧ ∃ v, s.datum p = .ok v := by
  unfold load at h
  unfold Sources.datum
  cases read : s.read p with
  | error e =>
    rw [read, error_bind] at h
    cases h
    exact .inl rfl
  | ok text =>
    unfold readRoot at h
    simp only [read, ok_bind, (supported text read).filter_eq_none] at h
    rw [ok_bind]
    cases valued : value (included s s.depth p) p text with
    | error stop =>
      rw [valued, error_bind] at h
      cases h
      exact .inl rfl
    | ok v =>
      rw [valued, ok_bind] at h
      refine .inr ⟨?_, v, rfl⟩
      split at h
      · split at h <;> cases h
      · exact (Sources.load_inj (Except.error.inj h)).symm

theorem culprit_of_load (offline : s.web.pages = []) (acyclic : s.AcyclicFrom p)
    (supported : ∀ text, s.read p = .ok text → HasSupportedHeader text) {named : String}
    {cause : Option Cause} (h : load s p = .error (.load named cause)) :
    s.Culprit p (.load named cause) ∨ named = p ∧ ∃ v, s.datum p = .ok v := by
  refine (datum_of_load supported h).imp_left fun stopped => ?_
  cases read : s.read p with
  | error e =>
    rw [Sources.datum, read, error_bind] at stopped
    cases stopped
    exact .failing .refl (.unread read)
  | ok text =>
    have room : s.tree.files.length < s.tree.files.length + 1 + ([] : List Place).length := by
      rw [List.length_nil]
      omega
    exact Sources.culprit_of_datum offline (acyclic text read) (.start s _) room read stopped

theorem load_of_including (offline : s.web.pages = []) (acyclic : s.AcyclicFrom p)
    (supported : ∀ text, s.read p = .ok text → HasSupportedHeader text) {x y : String}
    (chain : ReflTransGen s.Halts p x) (halts : s.Halts x y) (fails : s.Fails y .unprintable) :
    load s p = .error (.load x (some .yamlSyntax)) := by
  have reached : s.AcyclicFrom x := Sources.acyclicFrom_of_chain chain acyclic
  obtain ⟨stop, below, above⟩ := Sources.datum_of_halts offline reached halts
  cases below.symm.trans (Sources.datum_of_fails fails)
  exact load_of_datum supported (Sources.datum_of_chain offline chain acyclic above nofun)

/-- Where a source at the end of a chain of inclusions, of whatever length, fails by itself, loading
fails in just this way, so that a failure to load names that source. Only one that cannot be printed
is not named, but the source that includes it. No other source is named by a failure to load, unless
all documents have values and the description is none of the right kind. -/
theorem load_blames (s : Sources) (offline : s.web.pages = []) {p : String}
    (acyclic : s.AcyclicFrom p)
    (supported : ∀ text, s.read p = .ok text → HasSupportedHeader text) :
    (∀ x stop, ReflTransGen s.Halts p x → s.Fails x stop → stop ≠ .unprintable →
      load s p = .error stop ∧ ∀ named cause, stop = .load named cause → named = x) ∧
    (∀ x y, ReflTransGen s.Halts p x → s.Halts x y → s.Fails y .unprintable →
      load s p = .error (.load x (some .yamlSyntax))) ∧
    (∀ named cause, load s p = .error (.load named cause) →
      s.Culprit p (.load named cause) ∨ named = p ∧ ∃ v, s.datum p = .ok v) := by
  refine ⟨fun x stop chain fails printable => ⟨?_, ?_⟩, fun x y chain halts fails => ?_,
    fun named cause h => ?_⟩
  · exact load_of_datum supported
      (Sources.datum_of_chain offline chain acyclic (Sources.datum_of_fails fails) printable)
  · rintro named cause rfl
    exact fails.named
  · exact load_of_including offline acyclic supported chain halts fails
  · exact culprit_of_load offline acyclic supported h

section LonePart

/-- A document that is nothing but an inclusion of another file, of some content if it exists. -/
def lonePart (content : Option (List UInt8)) : Sources where
  tree := ⟨⟨"/", ["work"]⟩, [],
    (⟨some 0, ["a.raml"]⟩, [33, 105, 110, 99, 108, 117, 100, 101, 32, 98, 46, 121, 109, 108]) ::
      (content.map fun bytes => (⟨some 0, ["b.yml"]⟩, bytes)).toList⟩
  web := ⟨[], true⟩

variable {content : Option (List UInt8)}

theorem read_lonePart (content : Option (List UInt8)) :
    (lonePart content).read "a.raml" = .ok "!include b.yml" := by
  cases content <;> rfl

theorem supported_lonePart (text : String) (h : (lonePart content).read "a.raml" = .ok text) :
    HasSupportedHeader text := by
  cases (read_lonePart content).symm.trans h
  have none : headerVersion? "!include b.yml" = none := by decide +kernel
  intro version named
  cases none.symm.trans named

theorem halts_lonePart {stop : Stop}
    (failed : included (lonePart content) (lonePart content).depth "a.raml" "b.yml" = .error stop) :
    (lonePart content).Halts "a.raml" "b.yml" := by
  refine ⟨_, "b.yml", stop, read_lonePart content, ?_, rfl⟩
  obtain ⟨number, whole⟩ := Document.whole_of_single single_whole (by decide)
  rw [Sources.StopsAt, Yaml.read_of_lone _ (by decide) whole, Yaml.telling, failed]
  rfl

theorem acyclicFrom_lonePart
    (lone : ∀ text, (lonePart content).read "b.yml" = .ok text →
      ∃ tag said, (Document.at "b.yml" text).single? = some (tag, said) ∧
        tag ≠ Yaml.Tag.inclusion) :
    (lonePart content).AcyclicFrom "a.raml" := by
  intro text read
  cases (read_lonePart content).symm.trans read
  refine Sources.acyclic_of_parts fun p part => ?_
  cases part with
  | @part _ _ text names resolved read _ =>
    obtain ⟨_, rfl⟩ := Document.names_of_single single_whole names
    cases (rfl : resolve "a.raml" "b.yml" = .ok "b.yml").symm.trans resolved
    obtain ⟨tag, said, single, other⟩ := lone text read
    constructor
    · rintro q ⟨names, _, _, _⟩
      exact other (Document.names_of_single single names).1
    · intro place whole part
      cases content with
      | none => cases read
      | some bytes =>
        have here : (lonePart (some bytes)).Stands (.at "a.raml" "!include b.yml")
          ⟨some 0, ["a.raml"]⟩ := rfl
        have there : (lonePart (some bytes)).tree.locate (FilePath.ofText "b.yml") =
          .ok ⟨some 0, ["b.yml"]⟩ := rfl
        cases here.symm.trans whole
        exact absurd (Except.ok.inj (there.symm.trans part)) (by decide)

theorem load_blames_missing :
    (lonePart none).web.pages = [] ∧ (lonePart none).AcyclicFrom "a.raml" ∧
    (lonePart none).Halts "a.raml" "b.yml" ∧
    load (lonePart none) "a.raml" = .error (.load "b.yml" (some (.remark "file not found"))) := by
  have unread : (lonePart none).read "b.yml" =
      .error (.load "b.yml" (some (.remark "file not found"))) := rfl
  have acyclic : (lonePart none).AcyclicFrom "a.raml" :=
    acyclicFrom_lonePart fun text read => by cases unread.symm.trans read
  have halts : (lonePart none).Halts "a.raml" "b.yml" := halts_lonePart rfl
  exact ⟨rfl, acyclic, halts, ((load_blames (lonePart none) rfl acyclic supported_lonePart).1 _ _
    (.single halts) (.unread unread) nofun).1⟩

/-- A bell in a part is blamed on the document that includes it. -/
theorem load_blames_including :
    (lonePart (some [7])).AcyclicFrom "a.raml" ∧ (lonePart (some [7])).Halts "a.raml" "b.yml" ∧
    (lonePart (some [7])).Fails "b.yml" .unprintable ∧
    load (lonePart (some [7])) "a.raml" = .error (.load "a.raml" (some .yamlSyntax)) ∧
    ∀ cause, load (lonePart (some [7])) "a.raml" ≠ .error (.load "b.yml" cause) := by
  have read : (lonePart (some [7])).read "b.yml" = .ok "\x07" := rfl
  have single : (Document.at "b.yml" "\x07").single? = some (Yaml.Tag.text, "\x07") := by
    decide +kernel
  have acyclic : (lonePart (some [7])).AcyclicFrom "a.raml" := by
    refine acyclicFrom_lonePart fun text read' => ?_
    cases read.symm.trans read'
    exact ⟨_, _, single, by decide⟩
  have halts : (lonePart (some [7])).Halts "a.raml" "b.yml" := halts_lonePart rfl
  have fails : (lonePart (some [7])).Fails "b.yml" .unprintable :=
    @Sources.Fails.unparsed _ _ _ .unprintable read rfl nofun
  have stopped := load_of_including rfl acyclic supported_lonePart .refl halts fails
  refine ⟨acyclic, halts, fails, stopped, fun cause other => ?_⟩
  exact absurd (Sources.load_inj (Except.error.inj (stopped.symm.trans other))) (by decide)

end LonePart

end RamlBridge.Loading

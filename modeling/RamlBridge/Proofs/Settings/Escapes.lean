import RamlBridge.Proofs.Outcome
import RamlBridge.Proofs.Validation.Stopped
import RamlBridge.Settings.Lookup

/-!
What gets out of looking for settings, other than settings and failures of the configuration. Each
of the places where settings are looked for lets something of its own through: names and texts that
cannot be used, values that no reader takes for faults of the text, and the faults of an environment
that stands alone. Nothing is said of values inside themselves and of entries that say how settings
are read.
-/
namespace RamlBridge.Settings

open Checked (StopsOnly)

inductive IsTold : Except Stop Settings → Prop
  | found (settings) : IsTold (.ok settings)
  | failed (message path field cause) :
      IsTold (.error (.failure (.configuration message path field cause)))

/-- What nothing is said of: a value inside itself, and an entry that says how settings are read. -/
inductive IsSetAside : Except Stop Settings → Prop
  | recursive : IsSetAside (.error .recursive)
  | argument (name) : IsSetAside (.error (.argument name))

inductive Origin where
  | unusable (fault : SystemFault)
  | missing
  | document (path : FilePath)
  | project (path : FilePath)
  | environment

/-- Where settings are looked for without a name: in the first of some files that is there, or else
in the project. -/
def usualOrigin (t : FileTree) : List String → Origin
  | [] =>
    let path := t.home.append (.ofText "pyproject.toml")
    match t.contains path with
    | .ok true => .project path
    | _ => .environment
  | name :: rest =>
    let path := t.home.append (.ofText name)
    match t.contains path with
    | .ok true => .document path
    | _ => usualOrigin t rest

def origin (t : FileTree) : Option String → Origin
  | none | some "" => usualOrigin t usualNames
  | some name =>
    match t.contains (.ofText name) with
    | .error fault => .unusable fault
    | .ok false => .missing
    | .ok true => .document (.ofText name)

/-- The value of a text in YAML, where nothing can be included. -/
def readYaml (text : String) : Except (Yaml.ReadFault Unit) Datum :=
  Yaml.read (fun _ => .error ()) text.toList

/-- What settings are read from, beside the environment: the value of a document, or the table of
the program in a project if there is one. -/
inductive Holds (t : FileTree) : Origin → Option Datum → Prop
  | json {path text j} : path.suffix = ".json" → t.readText path = .ok text →
      Json.parse text = .ok j → Holds t (.document path) (some (.ofJson j))
  | yaml {path text d} : path.suffix ≠ ".json" → t.readText path = .ok text →
      readYaml text = .ok d → Holds t (.document path) (some d)
  | project {path text project d} : t.readText path = .ok text → Toml.parse text = .ok project →
      programTable project = .ok d → Holds t (.project path) d
  | environment : Holds t .environment none

/-- A map with a key that is no text, or the one text that an entry cannot have for its name. -/
def HasOtherKey (d : Datum) : Prop :=
  ∃ es k v, d = .map es ∧ (k, v) ∈ es ∧ ((∀ s, k ≠ .text s) ∨ k = .text ownName)

/-- What gets out of an origin of settings. -/
inductive Escapes (t : FileTree) (env : Environment) : Origin → Stop → Prop
  | name (fault) : Escapes t env (.unusable fault) (.unusable (.system fault))
  | undecodable {path fault} : t.readText path = .error (.undecodable fault) →
      Escapes t env (.document path) (.unusable (.undecodable fault))
  | longInteger {path text remaining} : path.suffix = ".json" → t.readText path = .ok text →
      Json.parse text = .error ⟨.integerTooLong, remaining⟩ →
      Escapes t env (.document path) .integerTooLong
  | badEscape {path text tooLarge} : path.suffix ≠ ".json" → t.readText path = .ok text →
      readYaml text = .error (.broken (if tooLarge then .codeTooLarge else .noCharacter)) →
      Escapes t env (.document path) (.badEscape tooLarge)
  | longVersion {path text} : path.suffix ≠ ".json" → t.readText path = .ok text →
      readYaml text = .error (.broken .integerTooLong) →
      Escapes t env (.document path) .integerTooLong
  | unreadable {path text fault} : path.suffix ≠ ".json" → t.readText path = .ok text →
      readYaml text = .error (.valueless (.unreadable fault)) →
      Escapes t env (.document path) (.unreadable fault)
  | projectText {path fault} : t.readText path = .error fault →
      Escapes t env (.project path) (.unusable fault)
  | badTables {path text} : t.readText path = .ok text → Toml.parse text = .error .malformed →
      Escapes t env (.project path) .badTables
  | longNumber {path text} : t.readText path = .ok text →
      Toml.parse text = .error .integerTooLong → Escapes t env (.project path) .integerTooLong
  | noTable {path text project} : t.readText path = .ok text → Toml.parse text = .ok project →
      programTable project = .error .wrongKind → Escapes t env (.project path) .wrongKind
  | otherKey {origin d} : Holds t origin (some d) → HasOtherKey d →
      Escapes t env origin .wrongKind
  | documents {origin value fault} : Holds t origin none →
      variableValue? env "documents" = some value → Json.parse value = .error fault →
      Escapes t env origin .badEnvironment
  | environment {origin fs} : Holds t origin none → read env [] = .ok (.refused fs) →
      Escapes t env origin (.faults fs)

/-- How looking for settings at an origin ends. -/
inductive Ends (t : FileTree) (env : Environment) (o : Origin) (outcome : Except Stop Settings) :
    Prop
  | told : IsTold outcome → Ends t env o outcome
  | setAside : IsSetAside outcome → Ends t env o outcome
  | escapes {stop} : Escapes t env o stop → Ends t env o outcome

section Reading

variable {env : Environment} {es : List (Scalar × Datum)}

theorem stopsOnly_task (d : Datum) : StopsOnly (Task.read d) fun _ => False := by
  refine (StopsOnly.fields _ d).andThen fun es _ => ?_
  exact (StopsOnly.mandatory fun _ d _ => StopsOnly.text d).map.seq
    (StopsOnly.field fun _ d _ => StopsOnly.nullable (StopsOnly.text _))

theorem stopsOnly_ofEntries (es : List (Scalar × Datum)) :
    StopsOnly (ofEntries es) fun _ => False := by
  have texts (name absent : String) : StopsOnly (Checked.field es name name absent Checked.text)
      fun _ => False :=
    .field fun _ d _ => .text d
  have documents : StopsOnly (Checked.field es "documents" "documents" []
      (Checked.list Task.read)) fun _ => False :=
    .field fun _ d _ => .list fun _ _ x _ => stopsOnly_task x
  have indent : StopsOnly (Checked.field es "indent" "indent" 2 fun d =>
      Checked.map Int.ofNat (Checked.count d)) fun _ => False :=
    .field fun _ d _ => (StopsOnly.count d).map
  exact ((documents.map.seq indent).seq (texts _ _)).seq (texts _ _)

/-- Nothing stops the checks of settings. -/
theorem read_ne_stopped (o : Obstacle) : read env es ≠ .ok (.stopped o) := by
  intro h
  obtain ⟨given, _, stopped⟩ := map_eq_ok h
  exact (stopsOnly_ofEntries given).withUnknown o stopped

theorem environmentValue?_of_ne {name : String} (h : name ≠ "documents") :
    environmentValue? env name = .ok ((variableValue? env name).map .text) := by
  unfold environmentValue?
  cases variableValue? env name with
  | none => rfl
  | some value => exact if_neg h

theorem environmentValue?_eq_error_iff {fault : Json.ReadFault} :
    environmentValue? env "documents" = .error fault ↔
      ∃ value, variableValue? env "documents" = some value ∧ Json.parse value = .error fault := by
  unfold environmentValue?
  cases variableValue? env "documents" with
  | none => simp
  | some value => cases parsed : Json.parse value <;> simp [parsed]

/-- An environment cannot be read just if its list of documents is not written in JSON. -/
theorem read_nil_eq_error_iff {fault : Json.ReadFault} : read env [] = .error fault ↔
    ∃ value, variableValue? env "documents" = some value ∧ Json.parse value = .error fault := by
  rw [← environmentValue?_eq_error_iff]
  have indent : environmentValue? env "indent" = .ok _ := environmentValue?_of_ne (by decide)
  have suffix : environmentValue? env "output_suffix" = .ok _ := environmentValue?_of_ne (by decide)
  have level : environmentValue? env "log_level" = .ok _ := environmentValue?_of_ne (by decide)
  have noFile (name : String) : given? [] name = none := rfl
  unfold read givenEntries names
  simp only [mapM_cons_eq, noFile, indent, suffix, level]
  cases environmentValue? env "documents" with
  | error e => simp
  | ok d => simp [pure, Except.pure]

end Reading

section Data

variable {env : Environment} {path : String} {d : Datum}

theorem ofDatum_of_otherKey (h : HasOtherKey d) : ofDatum env path d = .error .wrongKind := by
  obtain ⟨es, k, v, rfl, member, other⟩ := h
  refine if_pos (List.any_eq_true.mpr ⟨(k, v), member, ?_⟩)
  rcases other with other | rfl
  · cases k with
    | text s => exact absurd rfl (other s)
    | _ => rfl
  · exact Bool.or_eq_true_iff.mpr (.inr (decide_eq_true rfl))

theorem ofDatum_cases (h : ¬ HasOtherKey d) :
    IsTold (ofDatum env path d) ∨ IsSetAside (ofDatum env path d) := by
  cases d with
  | map es =>
    rw [ofDatum]
    split
    · next found =>
      obtain ⟨⟨k, v⟩, member, other⟩ := List.any_eq_true.mp found
      refine absurd ⟨es, k, v, rfl, member, ?_⟩ h
      rcases Bool.or_eq_true_iff.mp other with noText | own
      · refine .inl fun s same => ?_
        cases same
        cases noText
      · exact .inr (of_decide_eq_true own)
    · split
      · exact .inr (.argument _)
      · split
        · exact .inl (.failed _ _ _ _)
        · exact .inl (.found _)
        · exact .inl (.failed _ _ _ _)
        · next o stopped => exact absurd stopped (read_ne_stopped o)
  | _ => exact .inl (.failed _ _ _ _)

theorem ofEnvironment_cases (env : Environment) : IsTold (ofEnvironment env) ∨
    (ofEnvironment env = .error .badEnvironment ∧ ∃ fault, read env [] = .error fault) ∨
    ∃ fs, ofEnvironment env = .error (.faults fs) ∧ read env [] = .ok (.refused fs) := by
  unfold ofEnvironment
  cases outcome : read env [] with
  | error fault => exact .inr (.inl ⟨rfl, fault, rfl⟩)
  | ok checked =>
    cases checked with
    | accepted settings => exact .inl (.found settings)
    | refused fs => exact .inr (.inr ⟨fs, rfl, rfl⟩)
    | stopped o => exact absurd outcome (read_ne_stopped o)

end Data

section Origins

variable {t : FileTree} {env : Environment} {o : Origin} {outcome : Except Stop Settings}
  {stop : Stop} {d : Datum}

def ofDocument (t : FileTree) (env : Environment) (path : FilePath) (name : String) :
    Except Stop Settings :=
  if path.suffix = ".json" then do
    ofDatum env name (← jsonValue name (← fileText t path name))
  else ofYamlFile t env path name

inductive Gives (t : FileTree) (env : Environment) : Origin → Except Stop Settings → Prop
  | unusable (fault) : Gives t env (.unusable fault) (.error (.unusable (.system fault)))
  | missing (message path field cause) :
      Gives t env .missing (.error (.failure (.configuration message path field cause)))
  | document (path name) : Gives t env (.document path) (ofDocument t env path name)
  | project (path) : Gives t env (.project path) (ofProject t env path)
  | environment : Gives t env .environment (ofEnvironment env)

theorem suffix_usual (t : FileTree) {name : String} (h : name ∈ usualNames) :
    (t.home.append (.ofText name)).suffix ≠ ".json" := by
  have one (path : FilePath) (relative : path.root = "") (named : path.parts = [name]) :
      (t.home.append path).name = name := by
    simp [FilePath.append, FilePath.name, relative, named]
  simp only [usualNames, List.mem_cons, List.not_mem_nil, or_false] at h
  rcases h with rfl | rfl
  · rw [FilePath.suffix, one _ (by decide) (by decide)]
    decide
  · rw [FilePath.suffix, one _ (by decide) (by decide)]
    decide

theorem gives_usual (t : FileTree) (env : Environment) {names : List String}
    (usual : names ⊆ usualNames) :
    Gives t env (usualOrigin t names) (ofUsualFiles t env names) := by
  induction names with
  | nil =>
    change Gives t env
      (match t.contains (t.home.append (.ofText "pyproject.toml")) with
        | .ok true => .project (t.home.append (.ofText "pyproject.toml"))
        | _ => .environment)
      (match t.contains (t.home.append (.ofText "pyproject.toml")) with
        | .ok true => ofProject t env (t.home.append (.ofText "pyproject.toml"))
        | _ => ofEnvironment env)
    cases t.contains (t.home.append (.ofText "pyproject.toml")) with
    | error fault => exact .environment
    | ok there =>
      cases there with
      | false => exact .environment
      | true => exact .project _
  | cons name rest ih =>
    obtain ⟨here, later⟩ := List.cons_subset.mp usual
    change Gives t env
      (match t.contains (t.home.append (.ofText name)) with
        | .ok true => .document (t.home.append (.ofText name))
        | _ => usualOrigin t rest)
      (match t.contains (t.home.append (.ofText name)) with
        | .ok true => ofYamlFile t env (t.home.append (.ofText name))
            (t.home.append (.ofText name)).toText
        | _ => ofUsualFiles t env rest)
    cases t.contains (t.home.append (.ofText name)) with
    | error fault => exact ih later
    | ok there =>
      cases there with
      | false => exact ih later
      | true =>
        -- a usual file is read as YAML, since its name never ends as one of JSON does
        have gives : Gives t env _ (ofDocument t env _ _) :=
          .document (t.home.append (.ofText name)) (t.home.append (.ofText name)).toText
        rwa [ofDocument, if_neg (suffix_usual t here)] at gives

theorem origin_some {name : String} (given : name ≠ "") :
    origin t (some name) = match t.contains (.ofText name) with
      | .error fault => .unusable fault
      | .ok false => .missing
      | .ok true => .document (.ofText name) := by
  unfold origin
  split
  · cases ‹some name = none›
  · cases ‹some name = some ""›
    exact absurd rfl given
  · cases ‹some name = _›
    rfl

theorem find_some {name : String} (given : name ≠ "") :
    find t env (some name) = ofNamedFile t env name := by
  unfold find
  split
  · cases ‹some name = none›
  · cases ‹some name = some ""›
    exact absurd rfl given
  · cases ‹some name = _›
    rfl

theorem gives_find (t : FileTree) (env : Environment) (name : Option String) :
    Gives t env (origin t name) (find t env name) := by
  cases name with
  | none => exact gives_usual t env (List.Subset.refl _)
  | some name =>
    by_cases given : name = ""
    · subst given
      exact gives_usual t env (List.Subset.refl _)
    · rw [origin_some given, find_some given]
      change Gives t env _
        (match t.contains (.ofText name) with
          | .error fault => .error (.unusable (.system fault))
          | .ok false =>
            .error (.failure (.configuration "Configuration file not found" (some name) none none))
          | .ok true => ofDocument t env (.ofText name) name)
      cases t.contains (.ofText name) with
      | error fault => exact .unusable fault
      | ok there =>
        cases there with
        | false => exact .missing _ _ _ _
        | true => exact .document _ name

section Document

variable {path : FilePath} {name text : String}

theorem fileText_of_read (read : t.readText path = .ok text) : fileText t path name = .ok text := by
  rw [fileText, read]

theorem ofDocument_of_json (json : path.suffix = ".json") (read : t.readText path = .ok text) :
    ofDocument t env path name = jsonValue name text >>= ofDatum env name := by
  rw [ofDocument, if_pos json, fileText_of_read read]
  rfl

theorem ofDocument_of_yaml (yaml : path.suffix ≠ ".json") (read : t.readText path = .ok text) :
    ofDocument t env path name = yamlValue name text >>= ofDatum env name := by
  rw [ofDocument, if_neg yaml, ofYamlFile, fileText_of_read read]
  rfl

theorem ofDocument_of_unread (unread : fileText t path name = .error stop) :
    ofDocument t env path name = .error stop := by
  unfold ofDocument ofYamlFile
  rw [unread]
  split <;> rfl

theorem ofDocument_of_undecodable {fault : Text.Utf8Fault}
    (read : t.readText path = .error (.undecodable fault)) :
    ofDocument t env path name = .error (.unusable (.undecodable fault)) :=
  ofDocument_of_unread (by rw [fileText, read])

theorem isTold_ofDocument_of_system {fault : SystemFault}
    (read : t.readText path = .error (.system fault)) : IsTold (ofDocument t env path name) := by
  have unread : fileText t path name = .error (unread name (.system fault)) := by
    rw [fileText, read]
  rw [ofDocument_of_unread unread]
  exact .failed _ _ _ _

theorem jsonValue_of_ok {j : Json} (h : Json.parse text = .ok j) :
    jsonValue name text = .ok (.ofJson j) := by
  rw [jsonValue, h]

theorem jsonValue_of_error {kind : Json.SyntaxFault} {remaining : Nat}
    (h : Json.parse text = .error ⟨kind, remaining⟩) :
    jsonValue name text = .error (if kind = .integerTooLong then .integerTooLong
      else unread name (.jsonSyntax text ⟨kind, remaining⟩)) := by
  rw [jsonValue, h]

def yamlStop (name : String) : Yaml.ReadFault Unit → Stop
  | .broken .noCharacter => .badEscape false
  | .broken .codeTooLarge => .badEscape true
  | .broken .integerTooLong => .integerTooLong
  | .broken .recursive => .recursive
  | .valueless (.unreadable f) => .unreadable f
  | _ => unread name .yamlSyntax

theorem yamlValue_of_error {fault : Yaml.ReadFault Unit} (h : readYaml text = .error fault) :
    yamlValue name text = .error (yamlStop name fault) := by
  rw [readYaml] at h
  rw [yamlValue, h]
  cases fault with
  | unprintable => rfl
  | broken fault => cases fault <;> rfl
  | valueless fault => cases fault <;> rfl

/-- A document in YAML that holds nothing counts as an empty one. -/
theorem yamlValue_of_ok (h : readYaml text = .ok d) :
    yamlValue name text = .ok (if d.isGiven then d else .map []) := by
  rw [readYaml] at h
  rw [yamlValue, h]

theorem isGiven_of_otherKey (h : HasOtherKey d) : d.isGiven = true := by
  obtain ⟨es, k, v, rfl, member, _⟩ := h
  cases es with
  | nil => cases member
  | cons => rfl

theorem not_hasOtherKey_nil : ¬ HasOtherKey (.map []) := by
  rintro ⟨es, k, v, same, member, _⟩
  cases same
  cases member

end Document

theorem programTable_eq_error {project : Datum} (h : programTable project = .error stop) :
    stop = .wrongKind := by
  unfold programTable at h
  dsimp only at h
  split at h
  · split at h
    · cases h
    · split at h <;> cases h
      rfl
    · split at h <;> cases h
      rfl
    · cases h
      rfl
  · cases h

theorem ends_ofDatum {name : String} (holds : Holds t o (some d))
    (h : outcome = ofDatum env name d) : Ends t env o outcome := by
  by_cases other : HasOtherKey d
  · exact .escapes (.otherKey holds other)
  · rcases ofDatum_cases other with told | setAside
    · exact .told (h ▸ told)
    · exact .setAside (h ▸ setAside)

theorem ends_json {path : FilePath} {name text : String} (json : path.suffix = ".json")
    (read : t.readText path = .ok text) :
    Ends t env (.document path) (ofDocument t env path name) := by
  rw [ofDocument_of_json json read]
  cases parsed : Json.parse text with
  | ok j =>
    rw [jsonValue_of_ok parsed, ok_bind]
    exact ends_ofDatum (.json json read parsed) rfl
  | error f =>
    obtain ⟨kind, remaining⟩ := f
    by_cases long : kind = .integerTooLong
    · subst long
      exact .escapes (.longInteger json read parsed)
    · rw [jsonValue_of_error parsed, if_neg long, error_bind]
      exact .told (.failed _ _ _ _)

theorem ends_yaml {path : FilePath} {name text : String} (yaml : path.suffix ≠ ".json")
    (read : t.readText path = .ok text) :
    Ends t env (.document path) (ofDocument t env path name) := by
  rw [ofDocument_of_yaml yaml read]
  cases parsed : readYaml text with
  | ok d =>
    rw [yamlValue_of_ok parsed, ok_bind]
    by_cases given : d.isGiven = true
    · rw [if_pos given]
      exact ends_ofDatum (.yaml yaml read parsed) rfl
    · rw [if_neg given]
      rcases ofDatum_cases not_hasOtherKey_nil with told | setAside
      · exact .told told
      · exact .setAside setAside
  | error fault =>
    rw [yamlValue_of_error parsed, error_bind]
    cases fault with
    | unprintable => exact .told (.failed _ _ _ _)
    | broken fault =>
      cases fault with
      | malformed => exact .told (.failed _ _ _ _)
      | noCharacter => exact .escapes (@Escapes.badEscape _ _ _ _ false yaml read parsed)
      | codeTooLarge => exact .escapes (@Escapes.badEscape _ _ _ _ true yaml read parsed)
      | integerTooLong => exact .escapes (.longVersion yaml read parsed)
      | recursive => exact .setAside .recursive
    | valueless fault =>
      cases fault with
      | malformed => exact .told (.failed _ _ _ _)
      | included => exact .told (.failed _ _ _ _)
      | unreadable fault => exact .escapes (.unreadable yaml read parsed)

theorem ends_document (path : FilePath) (name : String) :
    Ends t env (.document path) (ofDocument t env path name) := by
  cases read : t.readText path with
  | error fault =>
    cases fault with
    | system fault => exact .told (isTold_ofDocument_of_system read)
    | undecodable fault => exact .escapes (.undecodable read)
  | ok text =>
    by_cases json : path.suffix = ".json"
    · exact ends_json json read
    · exact ends_yaml json read

theorem ends_environment (nothing : Holds t o none) : Ends t env o (ofEnvironment env) := by
  rcases ofEnvironment_cases env with told | ⟨_, fault, unread⟩ | ⟨fs, _, refused⟩
  · exact .told told
  · obtain ⟨value, given, parsed⟩ := read_nil_eq_error_iff.mp unread
    exact .escapes (.documents nothing given parsed)
  · exact .escapes (.environment nothing refused)

theorem ends_project (path : FilePath) : Ends t env (.project path) (ofProject t env path) := by
  cases read : t.readText path with
  | error fault => exact .escapes (.projectText read)
  | ok text =>
    cases parsed : Toml.parse text with
    | error fault =>
      cases fault with
      | malformed => exact .escapes (.badTables read parsed)
      | integerTooLong => exact .escapes (.longNumber read parsed)
    | ok project =>
      simp only [ofProject, read, parsed]
      cases table : programTable project with
      | error stop =>
        cases programTable_eq_error table
        exact .escapes (.noTable read parsed table)
      | ok found =>
        rw [ok_bind]
        have holds : Holds t (.project path) found := .project read parsed table
        cases found with
        | none => exact ends_environment holds
        | some d => exact ends_ofDatum holds rfl

theorem ends_gives (h : Gives t env o outcome) : Ends t env o outcome := by
  cases h with
  | unusable fault => exact .escapes (.name fault)
  | missing message path field cause => exact .told (.failed message path field cause)
  | document path name => exact ends_document path name
  | project path => exact ends_project path
  | environment => exact ends_environment .environment

/-- Only a document or a project holds a value, which settings are then read from. -/
theorem outcome_of_otherKey (h : Gives t env o outcome) (holds : Holds t o (some d))
    (other : HasOtherKey d) : outcome = .error .wrongKind := by
  cases h with
  | unusable | missing | environment => cases holds
  | document path name =>
    cases holds with
    | json json read parsed =>
      rw [ofDocument_of_json json read, jsonValue_of_ok parsed, ok_bind]
      exact ofDatum_of_otherKey other
    | yaml yaml read parsed =>
      rw [ofDocument_of_yaml yaml read, yamlValue_of_ok parsed, isGiven_of_otherKey other,
        if_pos rfl, ok_bind]
      exact ofDatum_of_otherKey other
  | project path =>
    cases holds with
    | project read parsed table =>
      simp only [ofProject, read, parsed, table, ok_bind]
      exact ofDatum_of_otherKey other

theorem outcome_of_nothing (h : Gives t env o outcome) (nothing : Holds t o none) :
    outcome = ofEnvironment env := by
  cases h with
  | unusable | missing | document => cases nothing
  | environment => rfl
  | project path =>
    cases nothing with
    | project read parsed table => simp only [ofProject, read, parsed, table, ok_bind]

/-- What escapes is the outcome. -/
theorem Escapes.stops (escapes : Escapes t env o stop) (h : Gives t env o outcome) :
    outcome = .error stop := by
  cases escapes with
  | name fault =>
    cases h
    rfl
  | undecodable read =>
    cases h
    exact ofDocument_of_undecodable read
  | longInteger json read parsed =>
    cases h
    rw [ofDocument_of_json json read, jsonValue_of_error parsed, if_pos rfl, error_bind]
  | @badEscape _ _ tooLarge yaml read parsed =>
    cases h
    rw [ofDocument_of_yaml yaml read, yamlValue_of_error parsed, error_bind]
    cases tooLarge <;> rfl
  | longVersion yaml read parsed | unreadable yaml read parsed =>
    cases h
    rw [ofDocument_of_yaml yaml read, yamlValue_of_error parsed, error_bind]
    rfl
  | projectText read =>
    cases h
    rw [ofProject, read]
  | badTables read parsed =>
    cases h
    simp only [ofProject, read, parsed]
  | longNumber read parsed =>
    cases h
    simp only [ofProject, read, parsed]
  | noTable read parsed table =>
    cases h
    simp only [ofProject, read, parsed, table, error_bind]
  | otherKey holds other => exact outcome_of_otherKey h holds other
  | documents nothing given parsed =>
    rw [outcome_of_nothing h nothing, ofEnvironment,
      read_nil_eq_error_iff.mpr ⟨_, given, parsed⟩]
  | environment nothing refused => rw [outcome_of_nothing h nothing, ofEnvironment, refused]

theorem Escapes.untold (escapes : Escapes t env o stop) : ¬ IsTold (.error stop) := by
  intro told
  cases told
  cases escapes

theorem Escapes.not_isSetAside (escapes : Escapes t env o stop) : ¬ IsSetAside (.error stop) := by
  intro setAside
  cases setAside
  all_goals cases escapes

end Origins

/-- Looking for settings gives settings or a failure of the configuration just if nothing escapes
where they are looked for, and whatever escapes there is the outcome. Only where the outcome is set
aside is nothing said of it but that nothing is known to escape there. -/
theorem find_isTold_iff (t : FileTree) (env : Environment) (name : Option String) :
    (IsTold (find t env name) ∨ IsSetAside (find t env name) ↔
      ∀ stop, ¬ Escapes t env (origin t name) stop) ∧
      ∀ stop, Escapes t env (origin t name) stop → find t env name = .error stop := by
  have gives := gives_find t env name
  refine ⟨⟨fun ended stop escapes => ?_, fun none => ?_⟩, fun stop escapes => escapes.stops gives⟩
  · rw [escapes.stops gives] at ended
    exact ended.elim escapes.untold escapes.not_isSetAside
  · cases ends_gives gives with
    | told told => exact .inl told
    | setAside setAside => exact .inr setAside
    | escapes escapes => exact absurd escapes (none _)

/-- The tables of a project that are not written in TOML are no failure of the configuration. -/
theorem find_badTables :
    let t : FileTree := ⟨⟨"/", ["work"]⟩, [],
      [(⟨some 0, ["pyproject.toml"]⟩, [91, 116, 111, 111, 108, 10])]⟩
    find t [] none = .error .badTables ∧ ¬ IsTold (find t [] none) := by
  intro t
  have stopped : find t [] none = .error .badTables := rfl
  refine ⟨stopped, ?_⟩
  rw [stopped]
  rintro ⟨⟩

end RamlBridge.Settings

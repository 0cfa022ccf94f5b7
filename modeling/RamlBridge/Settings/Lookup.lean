import RamlBridge.Settings.Basic
import RamlBridge.Text.Pieces
import RamlBridge.Toml.Document
import RamlBridge.Workspace.TextFile
import RamlBridge.Yaml.Value

/-!
Where the settings are found: in a file that is named, in a file with a usual name, in the tables
of a project, or in the environment alone.
-/
namespace RamlBridge.Settings

/-- Why there are no settings: a failure that is told, or what nobody tells: a text or a name that
cannot be used, keys that are no names, or an environment that cannot be read. Set aside are a value
inside itself, and an entry that says how settings are read. -/
inductive Stop where
  | failure (f : Failure)
  | unusable (fault : TextFault)
  | badEscape (tooLarge : Bool)
  | unreadable (fault : Yaml.ScalarFault)
  | integerTooLong
  | badTables
  | wrongKind
  | badEnvironment
  | faults (fs : List Fault)
  | recursive
  | argument (name : String)
deriving Inhabited

/-- The name of the settings that are read; an entry cannot have it. -/
def ownName : String := "__pydantic_self__"

/-- The names of entries that say how settings are read. -/
def argumentNames : List String :=
  ["_case_sensitive", "_nested_model_default_partial_update", "_env_prefix", "_env_prefix_target",
    "_env_file", "_env_file_encoding", "_env_ignore_empty", "_env_nested_delimiter",
    "_env_nested_max_split", "_env_parse_none_str", "_env_parse_enums", "_cli_prog_name",
    "_cli_parse_args", "_cli_settings_source", "_cli_parse_none_str", "_cli_hide_none_type",
    "_cli_avoid_json", "_cli_enforce_required", "_cli_use_class_docs_for_groups",
    "_cli_exit_on_error", "_cli_prefix", "_cli_flag_prefix_char", "_cli_implicit_flags",
    "_cli_ignore_unknown_args", "_cli_kebab_case", "_cli_shortcuts", "_secrets_dir",
    "_build_sources"]

def named? (names : List String) : Scalar → Option String
  | .text k => if k ∈ names then some k else none
  | _ => none

def invalid (path : String) (fs : List Fault) : Stop :=
  .failure (.configuration "Invalid configuration" (some path) none (some (.faults fs)))

def unread (path : String) (cause : Cause) : Stop :=
  .failure (.configuration "Cannot read configuration" (some path) none (some cause))

def environmentFault : Fault :=
  ⟨[], .unfit "error parsing value for field \"documents\" from source \"EnvSettingsSource\""⟩

def ofDatum (env : Environment) (path : String) (d : Datum) : Except Stop Settings :=
  match d with
  | .map es =>
    if es.any fun p => !(p.1 matches .text _) || p.1 = .text ownName then .error .wrongKind
    else
      match es.findSome? fun p => named? argumentNames p.1 with
      | some name => .error (.argument name)
      | none =>
        match read env es with
        | .error _ => .error (invalid path [environmentFault])
        | .ok (.accepted settings) => .ok settings
        | .ok (.refused fs) => .error (invalid path fs)
        | .ok (.stopped _) => .error .wrongKind
  | _ => .error (invalid path [⟨[], .notModel "ConverterConfig"⟩])

def ofEnvironment (env : Environment) : Except Stop Settings :=
  match read env [] with
  | .error _ => .error .badEnvironment
  | .ok (.accepted settings) => .ok settings
  | .ok (.refused fs) => .error (.faults fs)
  | .ok (.stopped _) => .error .wrongKind

/-- The text of a file of settings, which is called by a name in a failure. -/
def fileText (t : FileTree) (path : FilePath) (name : String) : Except Stop String :=
  match t.readText path with
  | .ok text => .ok text
  | .error (.system f) => .error (unread name (.system f))
  | .error f => .error (.unusable f)

/-- The value of a file in YAML. One that holds nothing counts as empty. -/
def yamlValue (name text : String) : Except Stop Datum :=
  match Yaml.read (fun _ => Except.error ()) text.toList with
  | .ok d => .ok (if d.isGiven then d else .map [])
  | .error (.broken .noCharacter) => .error (.badEscape false)
  | .error (.broken .codeTooLarge) => .error (.badEscape true)
  | .error (.broken .integerTooLong) => .error .integerTooLong
  | .error (.broken .recursive) => .error .recursive
  | .error (.valueless (.unreadable f)) => .error (.unreadable f)
  | .error _ => .error (unread name .yamlSyntax)

def jsonValue (name text : String) : Except Stop Datum :=
  match Json.parse text with
  | .ok j => .ok (.ofJson j)
  | .error f =>
    .error (if f.fault = .integerTooLong then .integerTooLong else unread name (.jsonSyntax text f))

def ofYamlFile (t : FileTree) (env : Environment) (path : FilePath) (name : String) :
    Except Stop Settings := do
  ofDatum env name (← yamlValue name (← fileText t path name))

def ofNamedFile (t : FileTree) (env : Environment) (name : String) : Except Stop Settings :=
  let path := FilePath.ofText name
  match t.contains path with
  | .error f => .error (.unusable (.system f))
  | .ok false =>
    .error (.failure (.configuration "Configuration file not found" (some name) none none))
  | .ok true =>
    if path.suffix = ".json" then do
      ofDatum env name (← jsonValue name (← fileText t path name))
    else ofYamlFile t env path name

def usualNames : List String := ["raml2swagger.yaml", "raml2swagger.yml"]

/-- The table of the program among the tables of a project, if there is one. -/
def programTable (project : Datum) : Except Stop (Option Datum) :=
  let name := "raml2swagger"
  match project with
  | .map es =>
    match (Datum.lookup? es "tool").getD (.map []) with
    | .map tools => .ok (Datum.lookup? tools name)
    | .scalar (.text s) => if Text.holds name.toList s.toList then .error .wrongKind else .ok none
    | .list items =>
      if items.any fun d => d matches .scalar (.text "raml2swagger") then .error .wrongKind
      else .ok none
    | _ => .error .wrongKind
  | _ => .ok none

/-- Settings from the tables of a project, or from the environment if they hold none. -/
def ofProject (t : FileTree) (env : Environment) (path : FilePath) : Except Stop Settings :=
  match t.readText path with
  | .error f => .error (.unusable f)
  | .ok text =>
    match Toml.parse text with
    | .error .integerTooLong => .error .integerTooLong
    | .error .malformed => .error .badTables
    | .ok project => do
      match ← programTable project with
      | some d => ofDatum env path.toText d
      | none => ofEnvironment env

/-- The settings from the first of some usual files that is there, or else from the project. -/
def ofUsualFiles (t : FileTree) (env : Environment) : List String → Except Stop Settings
  | [] =>
    let path := t.home.append (.ofText "pyproject.toml")
    match t.contains path with
    | .ok true => ofProject t env path
    | _ => ofEnvironment env
  | name :: rest =>
    let path := t.home.append (.ofText name)
    match t.contains path with
    | .ok true => ofYamlFile t env path path.toText
    | _ => ofUsualFiles t env rest

/-- The settings of the program. A file that is named by an empty text is not named. -/
def find (t : FileTree) (env : Environment) (name : Option String) : Except Stop Settings :=
  match name with
  | none | some "" => ofUsualFiles t env usualNames
  | some name => ofNamedFile t env name

end RamlBridge.Settings

import RamlBridge.Command.Arguments
import RamlBridge.Console.Lines
import RamlBridge.Conversion.Document
import RamlBridge.Conversion.Output
import RamlBridge.Loading.Document
import RamlBridge.Settings.Lookup

/-!
The commands carried out on files and pages.
-/
namespace RamlBridge

structure Workspace where
  sources : Loading.Sources
  environment : Settings.Environment
deriving Inhabited

namespace Command

/-- Why a command breaks off without telling it. -/
inductive Crash where
  | settings (s : Settings.Stop)
  | loading (s : Loading.Stop)
  | conversion (s : Conversion.Stop)
  | noName
  | badLevel
  | markup (fault : Console.MarkupFault)
  | unencodable
deriving Inhabited

/-- How a command ended: a failure that is told, nothing to be done, or a crash. -/
inductive Ending where
  | failure (f : Failure)
  | nothing
  | crash (c : Crash)
deriving Inhabited

/-- What a command did: the files afterwards, what it said, and how it ended if not well. -/
structure Outcome where
  tree : FileTree
  output : String
  ending : Option Ending
deriving Inhabited

namespace Outcome

def put (tree : FileTree) (text : String) (ending : Option Ending) : Outcome :=
  if Text.holdsHalf text then ⟨tree, "", some (.crash .unencodable)⟩ else ⟨tree, text, ending⟩

def say (tree : FileTree) (line : String) (ending : Option Ending) : Outcome :=
  match Console.lines line with
  | .ok text => put tree text ending
  | .error f => ⟨tree, "", some (.crash (.markup f))⟩

def error (tree : FileTree) (message : String) (ending : Ending) : Outcome :=
  say tree ("[red]Error:[/red] " ++ message) (some ending)

def fail (tree : FileTree) (f : Failure) : Outcome := error tree f.message (.failure f)

def crash (tree : FileTree) (c : Crash) : Outcome := ⟨tree, "", some (.crash c)⟩

def andThen (first : Outcome) (next : FileTree → Outcome) : Outcome :=
  match first.ending with
  | some _ => first
  | none => { next first.tree with output := first.output ++ (next first.tree).output }

/-- The status of the program: two for arguments that were not understood is not among them. -/
def status (o : Outcome) : Nat := if o.ending.isSome then 1 else 0

end Outcome

def levels : List String :=
  ["CRITICAL", "FATAL", "ERROR", "WARN", "WARNING", "INFO", "DEBUG", "NOTSET"]

/-- Whether there is a level of logging; a verbose command asks for none. -/
def hasLevel (settings : Settings) (verbose : Bool) : Bool :=
  verbose || levels.contains (String.ofList (settings.logLevel.toList.map Char.toUpper))

/-- Where the document of a task is written. An empty output is none. -/
def outputOf (settings : Settings) (task : Task) : Option String :=
  match task.output with
  | none | some "" => Conversion.defaultOutputPath task.source settings.outputSuffix
  | some output => some output

/-- Writes a document, or shows it if it cannot be written. -/
def deliver (tree : FileTree) (source text output : String) : Outcome :=
  match Conversion.writeOutput tree text output with
  | (tree, .error _) => .put tree (text ++ "\n") none
  | (tree, .ok path) =>
    .say tree ("[green]Converted[/green] " ++ source ++ " -> " ++ path.toText) none

def convertTask (web : Web) (settings : Settings) (task : Task) (tree : FileTree) : Outcome :=
  match outputOf settings task with
  | none => .crash tree .noName
  | some output =>
    match Loading.load ⟨tree, web⟩ task.source with
    | .error (.failure f) => .fail tree f
    | .error s => .crash tree (.loading s)
    | .ok root =>
      match (Conversion.convert root (some settings.indent)).outcome with
      | .error (.failure f) => .fail tree f
      | .error s => .crash tree (.conversion s)
      | .ok text => deliver tree task.source text output

def withSettings (w : Workspace) (name : Option String) (verbose : Bool)
    (next : Settings → Outcome) : Outcome :=
  let tree := w.sources.tree
  match Settings.find tree w.environment name with
  | .error (.failure f) => .fail tree f
  | .error s => .crash tree (.settings s)
  | .ok settings => if hasLevel settings verbose then next settings else .crash tree .badLevel

def versionText : String := "raml2swagger version: 0.1.0"

def run (w : Workspace) (command : Command) : Outcome :=
  match command with
  | .convert source output name indent verbose =>
    withSettings w name verbose fun settings =>
      convertTask w.sources.web { settings with indent := indent.getD settings.indent }
        ⟨source, output⟩ w.sources.tree
  | .batch name verbose =>
    withSettings w name verbose fun settings =>
      if settings.documents.isEmpty then .error w.sources.tree "no documents configured" .nothing
      else
        settings.documents.foldl (fun o task => o.andThen (convertTask w.sources.web settings task))
          ⟨w.sources.tree, "", none⟩
  | .version => .say w.sources.tree versionText none
  | .help => ⟨w.sources.tree, "", none⟩

end Command

end RamlBridge

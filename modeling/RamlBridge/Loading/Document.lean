import RamlBridge.Loading.Source
import RamlBridge.Raml.Document

/-!
Documents with the parts that they include, and the descriptions that they hold.
-/
namespace RamlBridge.Loading

/-- What a fault in the text of a source stops. A part whose text cannot be printed is a fault of
the document that includes it. -/
def stopOf (source : String) : Yaml.ReadFault Stop → Stop
  | .unprintable => .unprintable
  | .broken .malformed => .load source (some .yamlSyntax)
  | .broken .noCharacter => .badEscape false
  | .broken .codeTooLarge => .badEscape true
  | .broken .integerTooLong => .integerTooLong
  | .broken .recursive => .recursive
  | .valueless .malformed => .load source (some .yamlSyntax)
  | .valueless (.unreadable f) => .unreadable f
  | .valueless (.included .unprintable) => .load source (some .yamlSyntax)
  | .valueless (.included s) => s

def value (inclusion : String → Except Stop Datum) (source text : String) : Except Stop Datum :=
  match Yaml.read inclusion text.toList with
  | .ok d => .ok d
  | .error f => .error (stopOf source f)

/-- What a document at a location includes under a target, down to a depth. -/
def included (s : Sources) : Nat → String → String → Except Stop Datum
  | 0, _, _ => .error .endless
  | depth + 1, location, target => do
    let source ← resolve location target
    let text ← s.read source
    if isDocument source then value (included s depth source) source text
    else .ok (.text text)

/-- The depth that inclusions can have if no document includes itself. -/
def Sources.depth (s : Sources) : Nat :=
  s.tree.files.length + s.web.pages.length + 1

/-- The version that a header names: what follows its mark in the first line that is not blank. -/
def headerVersion? (text : String) : Option String :=
  match (Text.lines text).find? fun l => Text.strip l ≠ "" with
  | none => none
  | some line =>
    let mark := "#%RAML".toList
    if mark.isPrefixOf line.toList then
      some (Text.strip (String.ofList (line.toList.drop mark.length)))
    else none

def supportedVersion : String := "0.8"

/-- The description in the text of a source, whose parts are seen from a location. -/
def readRoot (s : Sources) (location source text : String) : Except Stop Raml.Root :=
  match (headerVersion? text).filter (· ≠ supportedVersion) with
  | some version =>
    .error (.load source (some (.remark ("unsupported RAML version '" ++ version ++ "', only " ++
      supportedVersion ++ " is supported"))))
  | none => do
    let d ← value (included s s.depth location) source text
    match d with
    | .map _ =>
      match Raml.Root.read d with
      | .accepted root => .ok root
      | .refused faults => .error (.failure (.description source (faults.map Fault.message)))
      | .stopped o => .error (.obstacle o)
    | _ => .error (.load source (some (.remark "document root is not a mapping")))

def load (s : Sources) (source : String) : Except Stop Raml.Root := do
  readRoot s source source (← s.read source)

/-- Loads a description from a text, under a name for it. Its parts are seen from a directory. -/
def loadText (s : Sources) (directory source text : String) : Except Stop Raml.Root :=
  readRoot s ((FilePath.ofText directory).append ⟨"", ["_"]⟩).toText source text

end RamlBridge.Loading

import RamlBridge.Failure
import RamlBridge.Text.Surrogate
import RamlBridge.Uri.Basic
import RamlBridge.Workspace.FileTree

/-!
Where the document of a description is written, and the writing of it.
-/
namespace RamlBridge.Conversion

def defaultSuffix : String := ".json"

/-- The path for the document of a source: its name with another suffix. The document of a URL
goes into the current directory, under the last name of its path. -/
def defaultOutputPath (source suffix : String) : Option String :=
  let path :=
    if Uri.isUrl source then
      let name := (FilePath.ofText (((Uri.parse source).map Uri.path).getD "")).name
      FilePath.ofText (if name = "" then "swagger" else name)
    else FilePath.ofText source
  (path.withSuffix? suffix).map FilePath.toText

/-- A text that ends in a line feed, which is added if it is missing. -/
def terminated (text : String) : String :=
  if text.toList.getLast? = some '\n' then text else text ++ "\n"

/-- Whether a half can stand in a path: those that stand for one byte can. -/
def isByteHalf (c : Char) : Bool :=
  0xdc80 ≤ Text.codeOf c && Text.codeOf c < 0xdd00

/-- What is wrong with a path that holds a character that no path can hold. -/
def pathCause? (path : FilePath) : Option Cause :=
  let cs := path.toText.toList
  if cs.any fun c => Text.isHalf c && !isByteHalf c then some .unencodable
  else if cs.contains (Char.ofNat 0) then some (.reported "embedded null byte")
  else none

/-- Writes a text to a path, whose directories are there. A text that has no bytes leaves an empty
file. -/
def writeText (t : FileTree) (text : String) (path : FilePath) : FileTree × Option Cause :=
  let lossy := Text.holdsHalf text
  match pathCause? path with
  | some cause => (t, some cause)
  | none =>
    let (t, fault) := t.write path (if lossy then [] else text.toUTF8.toList)
    (t, (fault.map .system).orElse fun _ => if lossy then some .unencodable else none)

/-- Writes a text to a destination, with the directories that it needs. Gives the files
afterwards, and the path that was written to. -/
def writeOutput (t : FileTree) (text destination : String) :
    FileTree × Except Failure FilePath :=
  let path := FilePath.ofText destination
  let fail (cause : Cause) : Except Failure FilePath := .error (.output destination (some cause))
  match pathCause? path.parent with
  | some cause => (t, fail cause)
  | none =>
    match t.settleAll path.parent with
    | (t, some fault) => (t, fail (.system fault))
    | (t, none) =>
      match writeText t (terminated text) path with
      | (t, some cause) => (t, fail cause)
      | (t, none) => (t, .ok path)

end RamlBridge.Conversion

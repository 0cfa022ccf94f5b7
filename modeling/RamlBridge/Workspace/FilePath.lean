import RamlBridge.Text.Pieces

/-!
Paths of files: a root and the names below it.
-/
namespace RamlBridge

/-- A path; the root is empty for a relative path, and one slash or two for an absolute one. -/
structure FilePath where
  root : String
  parts : List String
deriving DecidableEq, Repr, Inhabited

namespace FilePath

def rootOf : List Char → String
  | '/' :: '/' :: '/' :: _ => "/"
  | '/' :: '/' :: _ => "//"
  | '/' :: _ => "/"
  | _ => ""

/-- The path that a text denotes; empty names and single dots do not count. -/
def ofText (text : String) : FilePath :=
  ⟨rootOf text.toList,
    ((Text.split '/' text.toList).filter fun p => p ≠ [] ∧ p ≠ ['.']).map String.ofList⟩

def toText (path : FilePath) : String :=
  if path.root = "" ∧ path.parts = [] then "." else path.root ++ "/".intercalate path.parts

def name (path : FilePath) : String :=
  path.parts.getLastD ""

def parent (path : FilePath) : FilePath :=
  ⟨path.root, path.parts.dropLast⟩

def append (base path : FilePath) : FilePath :=
  if path.root = "" then ⟨base.root, base.parts ++ path.parts⟩ else path

/-- The name before its last dot, and the suffix from that dot on. A dot that is the first or the
last character begins no suffix. -/
def splitSuffix (name : List Char) : List Char × List Char :=
  let ending := Text.afterLast '.' name
  let stem := name.take (name.length - ending.length - 1)
  if ending.length + 1 < name.length ∧ ending ≠ [] then (stem, '.' :: ending) else (name, [])

def suffix (path : FilePath) : String :=
  String.ofList (splitSuffix path.name.toList).2

/-- Whether a suffix can be given to a name: it begins with a dot and goes on, without slashes, or
is empty. -/
def isSuffix (suffix : String) : Bool :=
  let cs := suffix.toList
  !cs.contains '/' && (cs.isEmpty || (cs.head? == some '.' && cs.length > 1))

/-- The path with another suffix; none if it has no name or the suffix is none. -/
def withSuffix? (path : FilePath) (suffix : String) : Option FilePath :=
  if isSuffix suffix ∧ path.name ≠ "" then
    some ⟨path.root, path.parts.dropLast ++
      [String.ofList (splitSuffix path.name.toList).1 ++ suffix]⟩
  else none

end FilePath

end RamlBridge

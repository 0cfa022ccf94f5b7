import RamlBridge.Workspace.FilePath
import RamlBridge.Workspace.SystemFault

/-!
The files and directories that a program sees from its working directory.
-/
namespace RamlBridge

/-- A place among the files: the names that lead to it, and where they begin, which is some
directories above the working directory, or the root. -/
structure Place where
  above : Option Nat
  names : List String
deriving DecidableEq, Repr, Inhabited

namespace Place

def home : Place := ⟨some 0, []⟩

def child (p : Place) (name : String) : Place := { p with names := p.names ++ [name] }

def parent (p : Place) : Place :=
  if p.names = [] then { p with above := p.above.map (· + 1) }
  else { p with names := p.names.dropLast }

/-- The path of a place, seen from the working directory. -/
def path (p : Place) : FilePath :=
  match p.above with
  | none => ⟨"/", p.names⟩
  | some n => ⟨"", List.replicate n ".." ++ p.names⟩

def isBelow (p q : Place) : Bool :=
  p.above == q.above && q.names.length < p.names.length &&
    p.names.take q.names.length == q.names

end Place

inductive FileEntry where
  | directory
  | file (content : List UInt8)
deriving DecidableEq, Repr

/-- The working directory with its absolute path, and what is in it and around it. -/
structure FileTree where
  home : FilePath
  directories : List Place
  files : List (Place × List UInt8)
deriving Inhabited

namespace FileTree

def longestName : Nat := 255

def longestPath : Nat := 4095

/-- What is at a place. The places above and around something are directories. -/
def find? (t : FileTree) (p : Place) : Option FileEntry :=
  match t.files.find? (·.1 == p) with
  | some f => some (.file f.2)
  | none =>
    if p.names = [] || t.directories.any (fun d => d == p || d.isBelow p) ||
        t.files.any (·.1.isBelow p) then
      some .directory
    else none

def step (t : FileTree) (p : Place) (name : String) : Except SystemFaultKind Place :=
  match t.find? p with
  | none => .error .notFound
  | some (.file _) => .error .notDirectory
  | some .directory =>
    if name = ".." then .ok p.parent
    else if name.utf8ByteSize > longestName then .error .nameTooLong
    else .ok (p.child name)

/-- The names of a path and the place that they begin at. -/
def startOf (t : FileTree) (path : FilePath) : Place × List String :=
  if path.root = t.home.root ∧ t.home.parts ≠ [] ∧ t.home.parts.isPrefixOf path.parts then
    (.home, path.parts.drop t.home.parts.length)
  else if path.root = "" then (.home, path.parts)
  else (⟨none, []⟩, path.parts)

/-- The place of a path; all but the last name have to lead to directories. -/
def locate (t : FileTree) (path : FilePath) : Except SystemFaultKind Place :=
  if path.toText.utf8ByteSize > longestPath then .error .nameTooLong
  else (t.startOf path).2.foldlM t.step (t.startOf path).1

def look (t : FileTree) (path : FilePath) : Except SystemFaultKind FileEntry := do
  let p ← t.locate path
  match t.find? p with
  | some e => .ok e
  | none => .error .notFound

/-- Whether there is something at a path; a name can be too long to tell. -/
def contains (t : FileTree) (path : FilePath) : Except SystemFault Bool :=
  match t.look path with
  | .ok _ => .ok true
  | .error .nameTooLong => .error ⟨.nameTooLong, path.toText⟩
  | .error _ => .ok false

def read (t : FileTree) (path : FilePath) : Except SystemFault (List UInt8) :=
  match t.look path with
  | .ok (.file content) => .ok content
  | .ok .directory => .error ⟨.isDirectory, path.toText⟩
  | .error kind => .error ⟨kind, path.toText⟩

def isDirectory (t : FileTree) (path : FilePath) : Bool :=
  match t.look path with
  | .ok .directory => true
  | _ => false

def addDirectory (t : FileTree) (path : FilePath) : Except SystemFaultKind FileTree := do
  let p ← t.locate path
  match t.find? p with
  | some _ => .error .taken
  | none => .ok { t with directories := t.directories ++ [p] }

/-- The tree with a directory at a path, if there can be one, and what is wrong if not. -/
def settle (t : FileTree) (path : FilePath) : FileTree × Option SystemFault :=
  match t.addDirectory path with
  | .ok t => (t, none)
  | .error kind => (t, if t.isDirectory path then none else some ⟨kind, path.toText⟩)

/-- The tree with a directory at the path of as many names, and on the way to it wherever one is
missing. What was added before something went wrong stays. -/
def settleNames (root : String) (names : List String) (t : FileTree) :
    Nat → FileTree × Option SystemFault
  | 0 => t.settle ⟨root, []⟩
  | n + 1 =>
    let path : FilePath := ⟨root, names.take (n + 1)⟩
    match t.addDirectory path with
    | .error .notFound =>
      match settleNames root names t n with
      | (t, none) => t.settle path
      | stopped => stopped
    | _ => t.settle path

/-- The tree with a directory at a path and on the way to it. -/
def settleAll (t : FileTree) (path : FilePath) : FileTree × Option SystemFault :=
  settleNames path.root path.parts t path.parts.length

def putFile (t : FileTree) (p : Place) (content : List UInt8) : FileTree :=
  { t with files := t.files.filter (·.1 != p) ++ [(p, content)] }

/-- The tree with a file at a path; the directory that it is in has to be there. -/
def write (t : FileTree) (path : FilePath) (content : List UInt8) :
    FileTree × Option SystemFault :=
  match t.locate path with
  | .error kind => (t, some ⟨kind, path.toText⟩)
  | .ok p =>
    match t.find? p with
    | some .directory => (t, some ⟨.isDirectory, path.toText⟩)
    | _ => (t.putFile p content, none)

/-- The files that are new or hold something else than in another tree. -/
def changedFrom (t before : FileTree) : List (Place × List UInt8) :=
  t.files.filter (· ∉ before.files)

end FileTree

end RamlBridge

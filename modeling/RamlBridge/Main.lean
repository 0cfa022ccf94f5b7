import RamlBridge.Command.Run

/-!
The program: it looks up the files that a command needs, carries the command out, and writes what
came out of it.
-/
namespace RamlBridge

def explore (t : FileTree) (text : String) : IO FileTree := do
  let path := FilePath.ofText text
  let (start, names) := t.startOf path
  let mut tree := t
  let mut place := start
  for name in names do
    place := if name = ".." then place.parent else place.child name
    if (tree.find? place).isNone then
      try
        let content ← IO.FS.readBinFile place.path.toText
        tree := tree.putFile place content.toList
      catch
        | .inappropriateType .. => tree := { tree with directories := tree.directories ++ [place] }
        | _ => pure ()
  return tree

/-- The paths that an outcome depends on: of what could not be loaded, and of what is written. -/
def pathsOf (before : FileTree) (o : Command.Outcome) : List String :=
  let missing := match o.ending with
    | some (.failure (.load source _)) => [source]
    | some (.failure (.configuration _ (some path) _ _)) => [path]
    | _ => []
  missing ++ (o.tree.changedFrom before).map fun f => f.1.path.toText

/-- The outcome of a command once everything is known that it depends on. -/
partial def settle (w : Workspace) (command : Command) (explored : List String) :
    IO (Workspace × Command.Outcome) := do
  let o := command.run w
  let tree := w.sources.tree
  let new := (pathsOf tree o).filter fun p => !explored.contains p
  if new.isEmpty then return (w, o)
  else
    let tree ← new.foldlM explore tree
    settle { w with sources := { w.sources with tree } } command (new ++ explored)

def settingsEnvironment : IO Settings.Environment := do
  let names := Settings.names.map fun n => "RAML2SWAGGER_" ++ n.map Char.toUpper
  names.filterMapM fun name => do
    return (← IO.getEnv name).map fun value => (name, value)

def writeChanges (before after : FileTree) : IO Unit :=
  for (place, content) in after.changedFrom before do
    IO.FS.createDirAll place.path.parent.toText
    IO.FS.writeBinFile place.path.toText ⟨content.toArray⟩

def runProgram (arguments : List String) : IO UInt32 := do
  match Command.ofArguments arguments with
  | none =>
    IO.eprintln "usage: convert SOURCE [OUTPUT] | batch | version"
    return 2
  | some command =>
    let home := FilePath.ofText (toString (← IO.currentDir))
    let names := Settings.usualNames ++ ["pyproject.toml"] ++ arguments
    let tree ← names.foldlM explore ⟨home, [], []⟩
    let w : Workspace := ⟨⟨tree, ⟨[], true⟩⟩, ← settingsEnvironment⟩
    let (w, o) ← settle w command names
    writeChanges w.sources.tree o.tree
    IO.print o.output
    if o.ending matches some (.crash _) then IO.eprintln "the command broke off"
    return o.status.toUInt32

end RamlBridge

def main (arguments : List String) : IO UInt32 :=
  RamlBridge.runProgram arguments

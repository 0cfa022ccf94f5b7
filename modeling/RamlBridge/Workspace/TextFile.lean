import RamlBridge.Failure
import RamlBridge.Text.Line
import RamlBridge.Workspace.FileTree

/-!
The texts of files.
-/
namespace RamlBridge

inductive TextFault where
  | system (fault : SystemFault)
  | undecodable (fault : Text.Utf8Fault)
deriving DecidableEq, Repr, Inhabited

def TextFault.cause : TextFault → Cause
  | .system f => .system f
  | .undecodable f => .undecodable f

/-- The text of a file. Every line of it ends in a line feed. -/
def FileTree.readText (t : FileTree) (path : FilePath) : Except TextFault String :=
  match t.read path with
  | .error f => .error (.system f)
  | .ok content =>
    match Text.decodeUtf8 content with
    | .error f => .error (.undecodable f)
    | .ok cs => .ok (String.ofList (Text.universalNewlines cs))

end RamlBridge

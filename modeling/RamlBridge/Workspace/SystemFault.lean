import RamlBridge.Text.Quoted

/-!
What can go wrong with a file.
-/
namespace RamlBridge

inductive SystemFaultKind where
  | notFound
  | taken
  | notDirectory
  | isDirectory
  | nameTooLong
deriving DecidableEq, Repr, Inhabited

namespace SystemFaultKind

def number : SystemFaultKind → Nat
  | .notFound => 2
  | .taken => 17
  | .notDirectory => 20
  | .isDirectory => 21
  | .nameTooLong => 36

def text : SystemFaultKind → String
  | .notFound => "No such file or directory"
  | .taken => "File exists"
  | .notDirectory => "Not a directory"
  | .isDirectory => "Is a directory"
  | .nameTooLong => "File name too long"

end SystemFaultKind

structure SystemFault where
  kind : SystemFaultKind
  path : String
deriving DecidableEq, Repr, Inhabited

def SystemFault.message (f : SystemFault) : String :=
  "[Errno " ++ Decimal.text f.kind.number ++ "] " ++ f.kind.text ++ ": " ++ Text.quoted f.path

end RamlBridge

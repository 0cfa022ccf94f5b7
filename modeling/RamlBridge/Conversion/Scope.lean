import RamlBridge.Raml.Basic
import RamlBridge.Text.Quoted

/-!
The path parameters that a resource can see: its own and those of every resource above it.
-/
namespace RamlBridge.Conversion

structure Scope where
  parameters : Entries Raml.Parameter
deriving Inhabited

namespace Scope

/-- A scope in which the given parameters take the place of those of the same name. -/
def extend (scope : Scope) (overrides : Entries Raml.Parameter) : Scope :=
  ⟨scope.parameters.putAll overrides⟩

def shown (scope : Scope) : String :=
  "ParameterScope([" ++ ", ".intercalate (scope.parameters.names.map Text.quoted) ++ "])"

end Scope

end RamlBridge.Conversion

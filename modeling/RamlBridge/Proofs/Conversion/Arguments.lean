import RamlBridge.Conversion.Parameters
import RamlBridge.Proofs.Validation.TextKeys
import RamlBridge.Swagger.Reading

/-!
The arguments from which a parameter of the document is built. They are values that its model
checks in turn, and what the model accepts is the parameter itself.
-/
namespace RamlBridge

namespace Checked

end Checked

namespace Swagger

open Checked Conversion

section Known

variable {es : Entries Datum} {names : List (String × String)}

end Known

/-- The arguments for a parameter other than the body, by name. -/
def Parameter.arguments (p : Parameter) : Entries Datum := [
  ("in_", .text p.location.name),
  ("name", .text p.name),
  ("description", Declaration.ofText p.description),
  ("required", if p.required then .scalar (.bool true) else .null),
  ("type", Declaration.ofText p.type),
  ("items", (p.items.map fun type => .map (Datum.textKeyed [("type", .text type)])).getD .null),
  ("default", p.fallback),
  ("enum", (p.choices.map .list).getD .null),
  ("minimum", (p.minimum.map Declaration.ofNumber).getD .null),
  ("maximum", (p.maximum.map Declaration.ofNumber).getD .null),
  ("min_length", (p.minLength.map fun n => .scalar (.int n)).getD .null),
  ("max_length", (p.maxLength.map fun n => .scalar (.int n)).getD .null),
  ("pattern", Declaration.ofText p.pattern),
  ("example", p.sample)]

def argumentNames : List String := ["in_", "name", "description", "required", "type", "items",
  "default", "enum", "minimum", "maximum", "min_length", "max_length", "pattern", "example"]

end Swagger

end RamlBridge

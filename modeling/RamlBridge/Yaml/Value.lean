import RamlBridge.Yaml.Filling

/-!
The value of a YAML text.
-/
namespace RamlBridge.Yaml

inductive ReadFault (ε : Type) where
  | unprintable
  | broken (fault : SyntaxFault)
  | valueless (fault : ValueFault ε)

/-- The value of a document; an empty one is null. What its nodes include is given. -/
def read {ε : Type} (inclusion : String → Except ε Datum) (text : List Char) :
    Except (ReadFault ε) Datum :=
  if !text.all isPrintable then .error .unprintable
  else
    match Node.ofTokens (tokens text) with
    | .error f => .error (.broken f)
    | .ok none => .ok .null
    | .ok (some n) =>
      match n.datum inclusion with
      | .ok d => .ok d
      | .error e => .error (.valueless e)

end RamlBridge.Yaml

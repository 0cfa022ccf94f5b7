import RamlBridge.Conversion.Registry
import RamlBridge.Swagger.Basic
import RamlBridge.Text.Case

/-!
Parameters of a description as parameters of a Swagger document, and the bodies of a request as
one more.
-/
namespace RamlBridge.Conversion

/-- The declaration of a parameter before its values are known to be of the right kinds. -/
structure Declaration where
  type : Datum
  description : Datum
  choices : Datum
  pattern : Datum
  minLength : Datum
  maxLength : Datum
  minimum : Datum
  maximum : Datum
  sample : Datum
  fallback : Datum
  repeats : Datum
  required : Datum
deriving Inhabited

namespace Declaration

def ofText : Option String → Datum
  | some s => .text s
  | none => .null

def ofNumber : Number → Datum
  | .int n => .scalar (.int n)
  | .float x => .scalar (.float x)

/-- A declaration whose values are known to be of the right kinds. -/
def ofParameter (p : Raml.Parameter) : Declaration where
  type := .text p.type.name
  description := ofText p.description
  choices := (p.choices.map .list).getD .null
  pattern := ofText p.pattern
  minLength := (p.minLength.map fun n => .scalar (.int n)).getD .null
  maxLength := (p.maxLength.map fun n => .scalar (.int n)).getD .null
  minimum := (p.minimum.map ofNumber).getD .null
  maximum := (p.maximum.map ofNumber).getD .null
  sample := p.sample
  fallback := p.fallback
  repeats := .scalar (.bool p.repeats)
  required := .scalar (.bool p.required)

end Declaration

def scalarType : Datum → Except Stop (Option String)
  | .scalar .null => .ok none
  | d =>
    match d.plainText with
    | some t => .ok (some (Text.lower t))
    | none => .error .integerTooLong

/-- The members of a list of choices: of a text its characters, of a map its keys. None are given
if the list is empty. -/
def choiceList (d : Datum) : Except Stop (Option (List Datum)) :=
  if d.isGiven then
    match d with
    | .list items => .ok (some items)
    | .pair a b => .ok (some [a, b])
    | .set members => .ok (some (members.map .scalar))
    | .map es => .ok (some (es.map fun p => .scalar p.1))
    | .scalar (.text s) => .ok (some (s.toList.map fun c => .text (String.singleton c)))
    | .scalar _ => .error .wrongKind
  else .ok none

/-- What a value stops with that a constraint cannot have: the failure that shows it. -/
def malformed (name field : String) (value : Datum) : Stop :=
  match value.shown with
  | some shown => .failure (.malformedConstraint name field shown)
  | none => .integerTooLong

def numberConstraint (name field : String) : Datum → Except Stop (Option Number)
  | .scalar .null => .ok none
  | .scalar (.int n) => .ok (some (.int n))
  | .scalar (.float x) => .ok (some (.float x))
  | d => .error (malformed name field d)

/-- A length of a parameter, which has to be an integer that is not negative. -/
def lengthConstraint (name field : String) : Datum → Except Stop (Option Int)
  | .scalar .null => .ok none
  | .scalar (.int n) =>
    if 0 ≤ n then .ok (some n)
    else .error (malformed name field (.scalar (.int n)))
  | d => .error (malformed name field d)

def patternConstraint (name : String) : Datum → Except Stop (Option String)
  | .scalar .null => .ok none
  | .scalar (.text s) => .ok (some s)
  | d => .error (malformed name "pattern" d)

def descriptionText : Datum → Except Stop (Option String)
  | .scalar .null => .ok none
  | .scalar (.text s) => .ok (some s)
  | _ => .error (.faults [⟨[.key "description"], .notText⟩])

/-- The parameter that a declaration gives at a location. One that is repeated is an array of
values of its type. -/
def mapParameter (location : Swagger.Location) (name : String) (d : Declaration) :
    Except Stop Swagger.Parameter := do
  let type ← scalarType d.type
  let repeats := d.repeats.isGiven
  let choices ← choiceList d.choices
  let minimum ← numberConstraint name "minimum" d.minimum
  let maximum ← numberConstraint name "maximum" d.maximum
  let minLength ← lengthConstraint name "minLength" d.minLength
  let maxLength ← lengthConstraint name "maxLength" d.maxLength
  let pattern ← patternConstraint name d.pattern
  let description ← descriptionText d.description
  .ok {
    location, name, description
    required := d.required.isGiven
    type := if repeats then some "array" else type
    items := if repeats then type.filter (· ≠ "") else none
    fallback := d.fallback
    choices, minimum, maximum, minLength, maxLength, pattern
    sample := d.sample
    schema := none }

def mapParameters (location : Swagger.Location) :
    Entries Raml.Parameter → Except Stop (List Swagger.Parameter)
  | [] => .ok []
  | (name, p) :: rest => do
    let parameter ← mapParameter location name (.ofParameter p)
    let parameters ← mapParameters location rest
    .ok (parameter :: parameters)

/-- The parameter that stands for a body with a schema. -/
def bodyParameter (schema : Option (Entries Json)) : Swagger.Parameter where
  location := .body
  name := "body"
  description := none
  required := true
  type := none
  items := none
  fallback := .null
  choices := none
  minimum := none
  maximum := none
  minLength := none
  maxLength := none
  pattern := none
  sample := .null
  schema := schema

/-- The bodies of a request as one parameter; none if there are no bodies. -/
def mapBody (registry : Registry) (bodies : Entries Raml.Body) :
    Except Stop (Option Swagger.Parameter) :=
  if bodies.isEmpty then .ok none
  else (registry.resolveFirst bodies).map fun schema => some (bodyParameter schema)

end RamlBridge.Conversion

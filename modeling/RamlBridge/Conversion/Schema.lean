import RamlBridge.Conversion.Report
import RamlBridge.Json.Printer

/-!
JSON schemas as they are embedded in a document: without the marks that say in older drafts which
properties are required.
-/
namespace RamlBridge.Conversion

/-- The keys under which names stand that are free to choose, each with a schema. -/
def namedSchemaKeys : List String := ["properties", "patternProperties", "definitions"]

mutual

/-- A schema without the `required` keys at any depth. The names of properties, patterns and
definitions are no such keys. -/
def stripRequired : Json → Json
  | .array items => .array (stripItems items)
  | .object members => .object (stripMembers members)
  | v => v

def stripItems : List Json → List Json
  | [] => []
  | x :: xs => stripRequired x :: stripItems xs

def stripMembers : List (String × Json) → List (String × Json)
  | [] => []
  | (name, x) :: rest =>
    if name = "required" then stripMembers rest
    else if name ∈ namedSchemaKeys then (name, stripNamed x) :: stripMembers rest
    else (name, stripRequired x) :: stripMembers rest

def stripNamed : Json → Json
  | .array items => .array (stripItems items)
  | .object members => .object (stripEach members)
  | v => v

def stripEach : List (String × Json) → List (String × Json)
  | [] => []
  | (name, x) :: rest => (name, stripRequired x) :: stripEach rest

end

/-- Whether a property says of itself that it is required. -/
def isFlagged (property : Json) : Bool :=
  match property.member? "required" with
  | some (.bool b) => b
  | some (.text s) => s == "true"
  | _ => false

/-- The names of the properties that say of themselves that they are required. -/
def flaggedProperties : Json → List String
  | .object members => (members.filter fun p => isFlagged p.2).map Prod.fst
  | _ => []

/-- The members of the object that a schema text denotes. -/
def parseSchema (text : String) : Except Stop (Entries Json) :=
  match Json.parse text with
  | .ok (.object members) => .ok members
  | .ok _ => .error (.failure (.malformedSchema text (some .notObject)))
  | .error fault =>
    if fault.fault = .integerTooLong then .error .integerTooLong
    else .error (.failure (.malformedSchema text (some (.jsonSyntax text fault))))

/-- A schema without the keys that do not belong into a document at its top. -/
def withoutTopKeys (members : Entries Json) : Entries Json :=
  (members.erase "$schema").erase "required"

/-- The definition that a declared schema gives: stripped, and with a list of the properties that
said of themselves that they are required. -/
def definitionOf (members : Entries Json) : Entries Json :=
  let required := flaggedProperties ((members.find? "properties").getD .null)
  stripMembers (withoutTopKeys members) ++
    (if required = [] then [] else [("required", .array (required.map .text))])

end RamlBridge.Conversion

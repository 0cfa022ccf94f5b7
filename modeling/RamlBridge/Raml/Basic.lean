import RamlBridge.Datum.Basic

/-!
The tree of an API description: its root, the resources with their methods, and the declarations
of parameters, bodies, responses, schemas and security schemes.
-/
namespace RamlBridge

inductive Number where
  | int (n : Int)
  | float (x : Binary64)
deriving DecidableEq, Repr, Inhabited

namespace Raml

inductive ParameterType where
  | string
  | number
  | integer
  | date
  | boolean
  | file
deriving DecidableEq, Repr, Inhabited

def ParameterType.name : ParameterType → String
  | .string => "string"
  | .number => "number"
  | .integer => "integer"
  | .date => "date"
  | .boolean => "boolean"
  | .file => "file"

def ParameterType.all : List ParameterType :=
  [.string, .number, .integer, .date, .boolean, .file]

/-- The declaration of a parameter. A free-form value that is absent is null. -/
structure Parameter where
  displayName : Option String
  description : Option String
  type : ParameterType
  choices : Option (List Datum)
  pattern : Option String
  minLength : Option Nat
  maxLength : Option Nat
  minimum : Option Number
  maximum : Option Number
  sample : Datum
  fallback : Datum
  repeats : Bool
  required : Bool
deriving Inhabited

/-- What is declared when nothing is said: a text that need not be given, or must be. -/
def Parameter.plain (required : Bool) : Parameter :=
  ⟨none, none, .string, none, none, none, none, none, none, .null, .null, false, required⟩

/-- A body in one media type; the schema is a name or a text. -/
structure Body where
  schema : Option String
  sample : Datum
deriving Inhabited

structure Response where
  description : Option String
  bodies : Entries Body
deriving Inhabited

structure Action where
  description : Option String
  headers : Entries Parameter
  queryParameters : Entries Parameter
  bodies : Entries Body
  responses : Entries Response
deriving Inhabited

/-- A resource; its methods are keyed by name, the resources below it by their relative URI. -/
structure Resource where
  displayName : Option String
  description : Option String
  uriParameters : Entries Parameter
  actions : Entries Action
  children : List (String × Resource)
deriving Inhabited

structure SecurityScheme where
  type : Option String
  description : Option String
  describedBy : Option (Entries Datum)
  settings : Entries Datum
deriving Inhabited

structure Documentation where
  title : String
  content : String
deriving DecidableEq, Repr, Inhabited

structure Root where
  title : String
  version : Option String
  baseUri : Option String
  protocols : List String
  mediaType : Option String
  baseUriParameters : Entries Parameter
  documentation : List Documentation
  schemas : List (Entries String)
  securitySchemes : List (Entries SecurityScheme)
  resources : Entries Resource
deriving Inhabited

end Raml

end RamlBridge

import RamlBridge.Raml.Basic

/-!
The parts of a Swagger document that a description of an API maps onto.
-/
namespace RamlBridge.Swagger

inductive Location where
  | path
  | header
  | query
  | body
deriving DecidableEq, Repr, Inhabited

def Location.name : Location → String
  | .path => "path"
  | .header => "header"
  | .query => "query"
  | .body => "body"

def Location.all : List Location := [.path, .header, .query, .body]

inductive Flow where
  | implicit
  | password
  | application
  | accessCode
deriving DecidableEq, Repr, Inhabited

def Flow.name : Flow → String
  | .implicit => "implicit"
  | .password => "password"
  | .application => "application"
  | .accessCode => "accessCode"

def Flow.all : List Flow := [.implicit, .password, .application, .accessCode]

structure Info where
  title : Option String
  version : Option String
  description : Option String
deriving DecidableEq, Repr, Inhabited

/-- A parameter of any location. One that is repeated is an array of items of a type; the body
has a schema instead. A free-form value that is absent is null. -/
structure Parameter where
  location : Location
  name : String
  description : Option String
  required : Bool
  type : Option String
  items : Option String
  fallback : Datum
  choices : Option (List Datum)
  minimum : Option Number
  maximum : Option Number
  minLength : Option Int
  maxLength : Option Int
  pattern : Option String
  sample : Datum
  schema : Option (Entries Json)
deriving Inhabited

structure Response where
  description : Option String
  schema : Option (Entries Json)
deriving Inhabited

structure Operation where
  description : Option String
  consumes : Option (List String)
  produces : Option (List String)
  parameters : Option (List Parameter)
  responses : Entries Response
deriving Inhabited

abbrev PathItem := Entries Operation

inductive SecurityDefinition where
  | basic (description : Option String)
  | oauth2 (description : Option String) (flow : Flow) (authorizationUrl tokenUrl : Option String)
    (scopes : Entries String)
deriving DecidableEq, Repr, Inhabited

structure Document where
  info : Info
  host : Option String
  basePath : Option String
  schemes : Option (List String)
  paths : Entries PathItem
  definitions : Entries (Entries Json)
  securityDefinitions : Option (Entries SecurityDefinition)
deriving Inhabited

end RamlBridge.Swagger

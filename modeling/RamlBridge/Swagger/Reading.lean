import RamlBridge.Swagger.Basic
import RamlBridge.Raml.Declaration

/-!
Reading parts of a Swagger document. Keys that no model knows are faults.
-/
namespace RamlBridge.Swagger

open Checked

/-- The keys of a map that no field was read from; each is a fault. -/
def unknownKeys (es : List (Scalar × Datum)) (names : List (String × String)) : List Fault :=
  let used := names.filterMap fun p => (field? es p.1 p.2).map Prod.fst
  (es.filter fun p => match p.1 with
    | .text s => s ∉ used
    | _ => true).map fun p => ⟨[.key (keyName p.1)], .unknownKey⟩

/-- Adds the faults of unknown keys to what reading the known ones gave. -/
def onlyKnown {α : Type} (es : List (Scalar × Datum)) (names : List (String × String))
    (outcome : Checked α) : Checked α :=
  withUnknown es (unknownKeys es names) outcome

def choice {α : Type} (name : α → String) (values : List α) (d : Datum) : Checked α :=
  let given := match d with
    | .scalar s => (textOf? s).join
    | _ => none
  encodable (given.getD "") <|
    match values.find? fun v => some (name v) == given with
    | some v => .accepted v
    | none => fault (.notOneOf (values.map name))

def exactly (value : Scalar) (shown : String) (d : Datum) : Checked Unit :=
  match d with
  | .scalar s => if s = value then .accepted () else fault (.notExactly shown)
  | _ => fault (.notExactly shown)

def readVersion (d : Datum) : Checked Unit :=
  let read := exactly (.text "2.0") "'2.0'" d
  match d with
  | .scalar (.text s) => encodable s read
  | _ => read

/-- A schema is JSON; what is none is brought to JSON. -/
def readSchema (d : Datum) : Checked (Entries Json) :=
  entries (fun d => .accepted (d.json.toOption.getD d.toJson)) d

def Info.read (d : Datum) : Checked Info :=
  (fields "Info" d).andThen fun es =>
    onlyKnown es [("title", "title"), ("version", "version"), ("description", "description")] <|
      Info.mk
        <$> field es "title" "title" none (nullable text)
        <*> field es "version" "version" none (nullable text)
        <*> field es "description" "description" none (nullable text)

def readItems (d : Datum) : Checked String :=
  (fields "Items" d).andThen fun es =>
    onlyKnown es [("type", "type")] (mandatory es "type" "type" text)

def isTrue (d : Datum) : Checked Bool :=
  map Option.isSome (nullable (exactly (.bool true) "True") d)

def Parameter.read (d : Datum) : Checked Parameter :=
  (fields "Parameter" d).andThen fun es =>
    onlyKnown es [("in", "in_"), ("name", "name"), ("description", "description"),
      ("required", "required"), ("type", "type"), ("items", "items"), ("default", "default"),
      ("enum", "enum"), ("minimum", "minimum"), ("maximum", "maximum"),
      ("minLength", "min_length"), ("maxLength", "max_length"), ("pattern", "pattern"),
      ("example", "example"), ("schema", "schema_")] <|
      Parameter.mk
        <$> mandatory es "in" "in_" (choice Location.name Location.all)
        <*> mandatory es "name" "name" text
        <*> field es "description" "description" none (nullable text)
        <*> field es "required" "required" false isTrue
        <*> field es "type" "type" none (nullable text)
        <*> field es "items" "items" none (nullable readItems)
        <*> field es "default" "default" .null anything
        <*> field es "enum" "enum" none (nullable (list anything))
        <*> field es "minimum" "minimum" none (nullable Raml.Number.read)
        <*> field es "maximum" "maximum" none (nullable Raml.Number.read)
        <*> field es "minLength" "min_length" none (nullable integer)
        <*> field es "maxLength" "max_length" none (nullable integer)
        <*> field es "pattern" "pattern" none (nullable text)
        <*> field es "example" "example" .null anything
        <*> field es "schema" "schema_" none (nullable readSchema)

def Response.read (d : Datum) : Checked Response :=
  (fields "Response" d).andThen fun es =>
    onlyKnown es [("description", "description"), ("schema", "schema_")] <|
      Response.mk
        <$> field es "description" "description" none (nullable text)
        <*> field es "schema" "schema_" none (nullable readSchema)

def Operation.read (d : Datum) : Checked Operation :=
  (fields "Operation" d).andThen fun es =>
    onlyKnown es [("description", "description"), ("consumes", "consumes"),
      ("produces", "produces"), ("parameters", "parameters"), ("responses", "responses")] <|
      Operation.mk
        <$> field es "description" "description" none (nullable text)
        <*> field es "consumes" "consumes" none (nullable (list text))
        <*> field es "produces" "produces" none (nullable (list text))
        <*> field es "parameters" "parameters" none (nullable (list Parameter.read))
        <*> mandatory es "responses" "responses" (entries Response.read)

def readBasic (d : Datum) : Checked SecurityDefinition :=
  (fields "BasicSecurityDefinition" d).andThen fun es =>
    onlyKnown es [("type", "type"), ("description", "description")] <|
      (fun _ description => SecurityDefinition.basic description)
        <$> field es "type" "type" ()
          (exactly (.text "basic") "<SecuritySchemeType.BASIC: 'basic'>")
        <*> field es "description" "description" none (nullable text)

def readOAuth2 (d : Datum) : Checked SecurityDefinition :=
  (fields "OAuth2SecurityDefinition" d).andThen fun es =>
    onlyKnown es [("type", "type"), ("description", "description"), ("flow", "flow"),
      ("authorizationUrl", "authorization_url"), ("tokenUrl", "token_url"),
      ("scopes", "scopes")] <|
      (fun _ => SecurityDefinition.oauth2)
        <$> field es "type" "type" ()
          (exactly (.text "oauth2") "<SecuritySchemeType.OAUTH2: 'oauth2'>")
        <*> field es "description" "description" none (nullable text)
        <*> mandatory es "flow" "flow" (choice Flow.name Flow.all)
        <*> field es "authorizationUrl" "authorization_url" none (nullable text)
        <*> field es "tokenUrl" "token_url" none (nullable text)
        <*> field es "scopes" "scopes" [] (entries text)

/-- A security definition of either kind; if it is none, the faults of both readings. -/
def SecurityDefinition.read (d : Datum) : Checked SecurityDefinition :=
  match readBasic d, readOAuth2 d with
  | .accepted s, _ => .accepted s
  | _, .accepted s => .accepted s
  | first, second =>
    seq (map (fun a _ => a) (under (.key "BasicSecurityDefinition") first))
      (under (.key "OAuth2SecurityDefinition") second)

def Document.read (d : Datum) : Checked Document :=
  (fields "SwaggerDocument" d).andThen fun es =>
    onlyKnown es [("swagger", "swagger"), ("info", "info"), ("host", "host"),
      ("basePath", "base_path"), ("schemes", "schemes"), ("paths", "paths"),
      ("definitions", "definitions"), ("securityDefinitions", "security_definitions")] <|
      (fun _ => Document.mk)
        <$> field es "swagger" "swagger" () readVersion
        <*> field es "info" "info" ⟨none, none, none⟩ Info.read
        <*> field es "host" "host" none (nullable text)
        <*> field es "basePath" "base_path" none (nullable text)
        <*> field es "schemes" "schemes" none (nullable (list text))
        <*> field es "paths" "paths" [] (entries (entries Operation.read))
        <*> field es "definitions" "definitions" [] (entries readSchema)
        <*> field es "securityDefinitions" "security_definitions" none
          (nullable (entries SecurityDefinition.read))

end RamlBridge.Swagger

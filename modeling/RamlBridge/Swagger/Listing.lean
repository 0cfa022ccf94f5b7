import RamlBridge.Swagger.Basic
import RamlBridge.Raml.Listing

/-!
A Swagger document as JSON. Fields that are absent are left out. There is no JSON of it if a
free-form value in it, or one within a schema, cannot be listed.
-/
namespace RamlBridge.Swagger

/-- The members that are there, in order. -/
def present (members : List (String × Option Json)) : Json :=
  .object (members.filterMap fun p => p.2.map (Prod.mk p.1))

def textMember (t : Option String) : Option Json := t.map .text

def textList (ts : Option (List String)) : Option Json :=
  ts.map fun xs => .array (xs.map .text)

/-- A free-form value; null is an absent one. -/
def freeMember : Datum → Option Json
  | .scalar .null => none
  | d => some d.toJson

def schemaMember (schema : Option (Entries Json)) : Option Json :=
  schema.map fun ms => .object (Json.finiteMembers ms)

def Info.toJson (i : Info) : Json :=
  present [
    ("title", textMember i.title),
    ("version", textMember i.version),
    ("description", textMember i.description)]

def itemsJson (type : String) : Json :=
  present [("type", some (.text type))]

def Parameter.toJson (p : Parameter) : Json :=
  present [
    ("in", some (.text p.location.name)),
    ("name", some (.text p.name)),
    ("description", textMember p.description),
    ("required", if p.required then some (.bool true) else none),
    ("type", textMember p.type),
    ("items", p.items.map itemsJson),
    ("default", freeMember p.fallback),
    ("enum", p.choices.map fun xs => .array (xs.map Datum.toJson)),
    ("minimum", p.minimum.map Number.toJson),
    ("maximum", p.maximum.map Number.toJson),
    ("minLength", p.minLength.map .int),
    ("maxLength", p.maxLength.map .int),
    ("pattern", textMember p.pattern),
    ("example", freeMember p.sample),
    ("schema", schemaMember p.schema)]

def Response.toJson (r : Response) : Json :=
  present [("description", textMember r.description), ("schema", schemaMember r.schema)]

def Operation.toJson (o : Operation) : Json :=
  present [
    ("description", textMember o.description),
    ("consumes", textList o.consumes),
    ("produces", textList o.produces),
    ("parameters", o.parameters.map fun ps => .array (ps.map Parameter.toJson)),
    ("responses", some (.ofEntries Response.toJson o.responses))]

def PathItem.toJson (item : PathItem) : Json :=
  .ofEntries Operation.toJson item

def SecurityDefinition.toJson : SecurityDefinition → Json
  | .basic description =>
    present [("type", some (.text "basic")), ("description", textMember description)]
  | .oauth2 description flow authorizationUrl tokenUrl scopes =>
    present [
      ("type", some (.text "oauth2")),
      ("description", textMember description),
      ("flow", some (.text flow.name)),
      ("authorizationUrl", textMember authorizationUrl),
      ("tokenUrl", textMember tokenUrl),
      ("scopes", some (.ofEntries .text scopes))]

def Document.toJson (d : Document) : Json :=
  present [
    ("swagger", some (.text "2.0")),
    ("info", some d.info.toJson),
    ("host", textMember d.host),
    ("basePath", textMember d.basePath),
    ("schemes", textList d.schemes),
    ("paths", some (.ofEntries PathItem.toJson d.paths)),
    ("definitions", some (.ofEntries (fun ms => .object (Json.finiteMembers ms)) d.definitions)),
    ("securityDefinitions", d.securityDefinitions.map (.ofEntries SecurityDefinition.toJson))]

/-- What keeps the members of a schema from being listed. Only their own names are replaced where
they cannot be encoded. -/
def schemaFault? (members : Entries Json) : Option ListingFault :=
  members.findSome? fun m => (Datum.ofJson m.2).freeFault?

def Parameter.listingFault? (p : Parameter) : Option ListingFault :=
  p.fallback.freeFault?.or <|
    ((p.choices.getD []).findSome? Datum.freeFault?).or <|
    p.sample.freeFault?.or (p.schema.bind schemaFault?)

def Operation.listingFault? (o : Operation) : Option ListingFault :=
  ((o.parameters.getD []).findSome? Parameter.listingFault?).or <|
    o.responses.findSome? (·.2.schema.bind schemaFault?)

/-- What keeps a document from being listed: the first fault in its free-form values. -/
def Document.listingFault? (d : Document) : Option ListingFault :=
  (d.paths.findSome? (·.2.findSome? (·.2.listingFault?))).or <|
    d.definitions.findSome? (schemaFault? ·.2)

def Document.listing (d : Document) : Except ListingFault Json :=
  match d.listingFault? with
  | some fault => .error fault
  | none => .ok d.toJson.encodable

end RamlBridge.Swagger

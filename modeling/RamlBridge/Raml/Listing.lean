import RamlBridge.Raml.Basic
import RamlBridge.Datum.Json

/-!
The tree of a description written out as JSON: every field under its name, null where it is
absent. There is none if a free-form value in it cannot be listed.
-/
namespace RamlBridge

namespace Number

def toJson : Number → Json
  | .int n => .int n
  | .float x => .float x

end Number

namespace Json

def ofOption {α : Type} (f : α → Json) : Option α → Json
  | some a => f a
  | none => .null

def ofTextOption : Option String → Json := ofOption .text

def ofEntries {α : Type} (f : α → Json) (es : Entries α) : Json :=
  .object (Entries.mapValues f es)

end Json

namespace Raml

def Parameter.toJson (p : Parameter) : Json :=
  .object [
    ("display_name", .ofTextOption p.displayName),
    ("description", .ofTextOption p.description),
    ("type", .text p.type.name),
    ("enum", .ofOption (fun xs => .array (xs.map Datum.toJson)) p.choices),
    ("pattern", .ofTextOption p.pattern),
    ("min_length", .ofOption (fun n => .int (n : Nat)) p.minLength),
    ("max_length", .ofOption (fun n => .int (n : Nat)) p.maxLength),
    ("minimum", .ofOption Number.toJson p.minimum),
    ("maximum", .ofOption Number.toJson p.maximum),
    ("example", p.sample.toJson),
    ("default", p.fallback.toJson),
    ("repeat", .bool p.repeats),
    ("required", .bool p.required)]

def Body.toJson (b : Body) : Json :=
  .object [("schema_", .ofTextOption b.schema), ("example", b.sample.toJson)]

def Response.toJson (r : Response) : Json :=
  .object [
    ("description", .ofTextOption r.description),
    ("body", .ofEntries Body.toJson r.bodies)]

def Action.toJson (a : Action) : Json :=
  .object [
    ("description", .ofTextOption a.description),
    ("headers", .ofEntries Parameter.toJson a.headers),
    ("query_parameters", .ofEntries Parameter.toJson a.queryParameters),
    ("body", .ofEntries Body.toJson a.bodies),
    ("responses", .ofEntries Response.toJson a.responses)]

mutual

def Resource.toJson : Resource → Json
  | ⟨displayName, description, uriParameters, actions, children⟩ =>
    .object [
      ("display_name", .ofTextOption displayName),
      ("description", .ofTextOption description),
      ("uri_parameters", .ofEntries Parameter.toJson uriParameters),
      ("actions", .ofEntries Action.toJson actions),
      ("resources", .object (childrenToJson children))]

def childrenToJson : List (String × Resource) → List (String × Json)
  | [] => []
  | (uri, r) :: rest => (uri, Resource.toJson r) :: childrenToJson rest

end

def SecurityScheme.toJson (s : SecurityScheme) : Json :=
  .object [
    ("type", .ofTextOption s.type),
    ("description", .ofTextOption s.description),
    ("described_by", .ofOption (.ofEntries Datum.toJson) s.describedBy),
    ("settings", .ofEntries Datum.toJson s.settings)]

def Documentation.toJson (d : Documentation) : Json :=
  .object [("title", .text d.title), ("content", .text d.content)]

def Root.toJson (root : Root) : Json :=
  .object [
    ("title", .text root.title),
    ("version", .ofTextOption root.version),
    ("base_uri", .ofTextOption root.baseUri),
    ("protocols", .array (root.protocols.map .text)),
    ("media_type", .ofTextOption root.mediaType),
    ("base_uri_parameters", .ofEntries Parameter.toJson root.baseUriParameters),
    ("documentation", .array (root.documentation.map Documentation.toJson)),
    ("schemas", .array (root.schemas.map (.ofEntries .text))),
    ("security_schemes", .array (root.securitySchemes.map (.ofEntries SecurityScheme.toJson))),
    ("resources", .object (childrenToJson root.resources))]

def Parameter.listingFault? (p : Parameter) : Option ListingFault :=
  ((p.choices.getD []).findSome? Datum.freeFault?).or <|
    p.sample.freeFault?.or p.fallback.freeFault?

def Response.listingFault? (r : Response) : Option ListingFault :=
  r.bodies.findSome? (·.2.sample.freeFault?)

def Action.listingFault? (a : Action) : Option ListingFault :=
  (a.headers.findSome? (·.2.listingFault?)).or <|
    (a.queryParameters.findSome? (·.2.listingFault?)).or <|
    (a.bodies.findSome? (·.2.sample.freeFault?)).or <|
    a.responses.findSome? (·.2.listingFault?)

mutual

def Resource.listingFault? : Resource → Option ListingFault
  | ⟨_, _, uriParameters, actions, children⟩ =>
    (uriParameters.findSome? (·.2.listingFault?)).or <|
      (actions.findSome? (·.2.listingFault?)).or <| childrenFault? children

def childrenFault? : List (String × Resource) → Option ListingFault
  | [] => none
  | (_, r) :: rest => (Resource.listingFault? r).or (childrenFault? rest)

end

def SecurityScheme.listingFault? (s : SecurityScheme) : Option ListingFault :=
  ((s.describedBy.getD []).findSome? (·.2.freeFault?)).or <|
    s.settings.findSome? (·.2.freeFault?)

/-- What keeps a description from being listed: the first fault in its free-form values. -/
def Root.listingFault? (root : Root) : Option ListingFault :=
  (root.baseUriParameters.findSome? (·.2.listingFault?)).or <|
    (root.securitySchemes.findSome? (·.findSome? (·.2.listingFault?))).or <|
    childrenFault? root.resources

end Raml

end RamlBridge

import RamlBridge.Conversion.BaseUri
import RamlBridge.Conversion.Paths
import RamlBridge.Conversion.Security
import RamlBridge.Json.Printer
import RamlBridge.Swagger.Listing

/-!
The Swagger document of a description.
-/
namespace RamlBridge.Conversion

/-- The parameters of a base URI that every path sees: once a prefix is hoisted, the declared ones
and, for every other variable of the prefix, a text that must be given. -/
def rootParameters (baseUri : Option BaseUri) (declared : Entries Raml.Parameter) :
    Entries Raml.Parameter :=
  match baseUri with
  | none => []
  | some uri =>
    if uri.hoistedPrefix = "" then []
    else
      uri.hoistedParameters.foldl (fun parameters name =>
        if parameters.contains name then parameters
        else parameters.put name (Raml.Parameter.plain true)) declared

/-- The entries of the documentation in one line. -/
def documentationText (items : List Raml.Documentation) : Option String :=
  if items.isEmpty then none
  else some (" | ".intercalate (items.map fun i => i.title ++ " - " ++ i.content))

def info (root : Raml.Root) : Swagger.Info where
  title := if root.title = "" then none else some root.title
  version := root.version
  description := documentationText root.documentation

/-- The schemes of an API: the declared protocols, or else the scheme of its base URI. -/
def schemes (protocols : List String) (baseUri : Option BaseUri) : Option (List String) :=
  if protocols.isEmpty then baseUri.map fun uri => [uri.scheme]
  else some (protocols.map Text.lower)

/-- Puts the parts of a document together. The declared schemas come first, so that every use of
their names is a reference. -/
def assemble (root : Raml.Root) : Report Swagger.Document := do
  let baseUri ← parseBaseUri root.baseUri
  let registry ← Registry.empty.registerAll root.schemas
  let hoistedPrefix := (baseUri.map BaseUri.hoistedPrefix).getD ""
  let paths ← mapPaths registry hoistedPrefix
    ⟨rootParameters baseUri root.baseUriParameters⟩ root.resources
  let securityDefinitions ← mapSchemes root.securitySchemes
  .ok {
    info := info root
    host := baseUri.map BaseUri.host
    basePath := baseUri.map BaseUri.basePath
    schemes := schemes root.protocols baseUri
    paths := paths
    definitions := registry.definitions
    securityDefinitions := nonEmpty securityDefinitions }

def document (root : Raml.Root) : Report Swagger.Document :=
  (assemble root).told

def defaultIndent : Int := 2

def documentText (d : Swagger.Document) (indent : Option Int) : Report String :=
  match d.listing with
  | .error fault => .stop (.unlisted fault)
  | .ok j =>
    match j.write (.indented indent) with
    | some text => .ok text
    | none => .stop .integerTooLong

def convert (root : Raml.Root) (indent : Option Int) : Report String := do
  documentText (← document root) indent

end RamlBridge.Conversion

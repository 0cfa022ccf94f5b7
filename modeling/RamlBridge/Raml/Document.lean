import RamlBridge.Raml.Forest

/-!
Reading the root of a description.
-/
namespace RamlBridge.Raml

open Checked

def orEmptyList : Datum → Datum
  | .scalar .null => .list []
  | d => d

/-- Maps of declarations, given as one map or as a list of maps, each map put into shape. -/
def declarationList (shape : List (Scalar × Datum) → Checked Datum) (d : Datum) : Checked Datum :=
  match d with
  | .scalar .null => .accepted (.list [])
  | .map es => map (fun m => .list [m]) (shape es)
  | .list items =>
    map .list <| inTurn <| items.map fun item =>
      match item with
      | .map es => shape es
      | other => .accepted other
  | other => .accepted other

/-- A schema declared under a name: a text as it stands, anything else as JSON. -/
def namedSchema (p : Scalar × Datum) : Checked (Scalar × Datum) :=
  (textKey p.1).andThen fun key =>
    match p.2 with
    | .scalar (.text s) => .accepted (key, .text s)
    | d => map (fun t => (key, .text t)) (jsonText d)

def schemaEntries (es : List (Scalar × Datum)) : Checked Datum :=
  map (fun ps => .map (Datum.ofPairs ps)) (inTurn (es.map namedSchema))

def schemeEntries (es : List (Scalar × Datum)) : Checked Datum :=
  keyedByText orEmpty es

def Documentation.read (d : Datum) : Checked Documentation :=
  (fields "DocumentationItem" d).andThen fun es =>
    Documentation.mk
      <$> field es "title" "title" "" text
      <*> field es "content" "content" "" text

/-- The version as a text, whatever it was written as. -/
def versionText : Datum → Checked Datum
  | .scalar .null => .accepted .null
  | .scalar (.text s) => .accepted (.text s)
  | d =>
    match d.plainText with
    | some t => .accepted (.text t)
    | none => fault .tooManyDigits

def titleText : Datum → Datum
  | .scalar .null => .text ""
  | d => d

/-- The top-level resources: those of the group first, then the keys that begin with a slash. -/
def topResources (es : List (Scalar × Datum)) : Checked (List (Scalar × Datum)) :=
  map (fun start => (es.filter fun p => isPath p.1).foldl
      (fun rs p => Datum.putKey rs p.1 (orEmpty p.2)) start)
    (looseEntries (group es "resources"))

def Root.ofEntries (mediaType : Datum) (es : List (Scalar × Datum)) : Checked Root :=
  (topResources es).andThen fun resources =>
    Root.mk
      <$> field es "title" "title" "" (fun d => text (titleText d))
      <*> field es "version" "version" none (fun d => (versionText d).andThen (nullable text))
      <*> field es "baseUri" "base_uri" none (nullable text)
      <*> field es "protocols" "protocols" [] (fun d => list text (orEmptyList d))
      <*> field es "mediaType" "media_type" none (nullable text)
      <*> field es "baseUriParameters" "base_uri_parameters" [] (Parameter.readAll .uri)
      <*> field es "documentation" "documentation" []
        (fun d => list Documentation.read (orEmptyList d))
      <*> field es "schemas" "schemas" []
        (fun d => (declarationList schemaEntries d).andThen (list (entries text)))
      <*> field es "securitySchemes" "security_schemes" []
        (fun d => (declarationList schemeEntries d).andThen
          (list (entries SecurityScheme.read)))
      <*> under (.key "resources")
        (entriesOf (resources.map fun p => (p.1, Resource.read mediaType p.2)))

/-- Reads a description. Bodies without a media type take the one that the document names. -/
def Root.read : Datum → Checked Root
  | .map es => Root.ofEntries (group es "mediaType") es
  | .scalar .null => Root.ofEntries .null []
  | _ => fault (.notModel "Raml")

end RamlBridge.Raml

import RamlBridge.Raml.Basic
import RamlBridge.Validation.Field

/-!
Reading the declarations of parameters, bodies, responses and methods from the values of a
document. Keys that no model knows are left aside.
-/
namespace RamlBridge.Raml

open Checked

/-- The media type of a body when the document names none. -/
def defaultMediaType : String := "application/json"

/-- Null stands for an empty map. -/
def orEmpty : Datum → Datum
  | .scalar .null => .map []
  | d => d

def textKey (k : Scalar) : Checked Scalar :=
  match k.plainText with
  | some t => .accepted (.text t)
  | none => fault .tooManyDigits

/-- The entries of a map under the texts of their keys, each with its value changed. -/
def keyedByText (change : Datum → Datum) (es : List (Scalar × Datum)) : Checked Datum :=
  map (fun ps => .map (Datum.ofPairs ps))
    (inTurn (es.map fun p => map (fun k => (k, change p.2)) (textKey p.1)))

def firstDeclaration : Datum → Datum
  | .list [] => .map []
  | .list (d :: _) => orEmpty d
  | d => orEmpty d

def parameterMap (d : Datum) : Checked Datum :=
  match orEmpty d with
  | .map es => keyedByText firstDeclaration es
  | other => .accepted other

/-- The key under which a body without a media type is filed. -/
def bodyKey (mediaType : Datum) : Checked Scalar :=
  if mediaType.isGiven then
    match mediaType.key? with
    | some s => textKey s
    | none => .stopped .unhashableKey
  else .accepted (.text defaultMediaType)

/-- Whether the text of a key holds a slash, as that of a media type does. -/
def isMediaType (k : Scalar) : Bool :=
  k.plainText.any fun t => '/' ∈ t.toList

/-- The bodies of a declaration by media type. One without any key that holds a slash is a body
itself, of the media type of the document. Every key has to have a text, of a body itself too. -/
def bodyMap (mediaType : Datum) (d : Datum) : Checked Datum :=
  match orEmpty d with
  | .map [] => .accepted (.map [])
  | .map es =>
    andThen (keyedByText orEmpty es) fun keyed =>
      if es.any fun p => isMediaType p.1 then .accepted keyed
      else map (fun key => .map [(key, .map es)]) (bodyKey mediaType)
  | other => .accepted other

/-- A value as the text of its JSON, which it has to have. -/
def jsonText (d : Datum) : Checked String :=
  match d.jsonText with
  | .ok t => .accepted t
  | .error .notJson => .stopped .notJson
  | .error .integerTooLong => fault .tooManyDigits

/-- The text of a schema: a text as it stands, a collection as JSON. -/
def schemaText (d : Datum) : Checked Datum :=
  match d with
  | .list _ | .map _ => map .text (jsonText d)
  | _ => .accepted d

def ParameterType.read (d : Datum) : Checked ParameterType :=
  let given := match d with
    | .scalar (.text s) => some (Text.lower s)
    | .scalar (.bytes content) => String.fromUTF8? ⟨content.toArray⟩
    | _ => none
  encodable (given.getD "") <|
    match ParameterType.all.find? fun t => some t.name == given with
    | some t => .accepted t
    | none => fault (.notOneOf (ParameterType.all.map ParameterType.name))

def numberOfText (t : Option String) : Checked Number :=
  encodable (t.getD "") <|
    match t.bind Decimal.readReal? with
    | some x => .accepted (.float x)
    | none => fault .unreadableNumber

def realNumber : Datum → Checked Number
  | .scalar (.int n) => .accepted (.int n)
  | .scalar (.bool b) => .accepted (.int (if b then 1 else 0))
  | .scalar (.float x) => .accepted (.float x)
  | .scalar s =>
    match textOf? s with
    | some t => numberOfText t
    | none => fault .notNumber
  | _ => fault .notNumber

/-- A number that keeps its kind, or a text that is read as an integer if it can be and as a
number otherwise. -/
def Number.read (d : Datum) : Checked Number :=
  match d with
  | .scalar (.float x) => .accepted (.float x)
  | _ =>
    match integer d with
    | .accepted n => .accepted (.int n)
    | .stopped obstacle => .stopped obstacle
    | .refused faults =>
      match realNumber d with
      | .accepted x => .accepted x
      | .stopped obstacle => .stopped obstacle
      | .refused more =>
        .refused (faults.map (Fault.under (.key "int")) ++ more.map (Fault.under (.key "float")))

inductive ParameterKind where
  | uri
  | header
  | query
deriving DecidableEq, Repr, Inhabited

namespace ParameterKind

def modelName : ParameterKind → String
  | .uri => "UriParameter"
  | .header => "Header"
  | .query => "QueryParameter"

/-- Whether a parameter must be given when its declaration does not say. -/
def requiredByDefault : ParameterKind → Bool
  | .uri => true
  | _ => false

end ParameterKind

def Parameter.read (kind : ParameterKind) (d : Datum) : Checked Parameter :=
  (fields kind.modelName d).andThen fun es =>
    Parameter.mk
      <$> field es "displayName" "display_name" none (nullable text)
      <*> field es "description" "description" none (nullable text)
      <*> field es "type" "type" .string ParameterType.read
      <*> field es "enum" "enum" none (nullable (list anything))
      <*> field es "pattern" "pattern" none (nullable text)
      <*> field es "minLength" "min_length" none (nullable count)
      <*> field es "maxLength" "max_length" none (nullable count)
      <*> field es "minimum" "minimum" none (nullable Number.read)
      <*> field es "maximum" "maximum" none (nullable Number.read)
      <*> field es "example" "example" .null anything
      <*> field es "default" "default" .null anything
      <*> field es "repeat" "repeat" false boolean
      <*> field es "required" "required" kind.requiredByDefault boolean

/-- A map of parameters, given as such or as null. -/
def Parameter.readAll (kind : ParameterKind) (d : Datum) : Checked (Entries Parameter) :=
  (parameterMap d).andThen (entries (Parameter.read kind))

def Body.read (d : Datum) : Checked Body :=
  (fields "MimeType" d).andThen fun es =>
    Body.mk
      <$> field es "schema" "schema_" none (fun s => (schemaText s).andThen (nullable text))
      <*> field es "example" "example" .null anything

def Body.readAll (mediaType : Datum) (d : Datum) : Checked (Entries Body) :=
  (bodyMap mediaType d).andThen (entries Body.read)

def Response.read (mediaType : Datum) (d : Datum) : Checked Response :=
  (fields "Response" d).andThen fun es =>
    Response.mk
      <$> field es "description" "description" none (nullable text)
      <*> field es "body" "body" [] (Body.readAll mediaType)

/-- Responses by status code; the codes are taken as texts. -/
def responseMap (d : Datum) : Checked Datum :=
  match orEmpty d with
  | .map es => keyedByText orEmpty es
  | other => .accepted other

def Response.readAll (mediaType : Datum) (d : Datum) : Checked (Entries Response) :=
  (responseMap d).andThen (entries (Response.read mediaType))

def Action.read (mediaType : Datum) (d : Datum) : Checked Action :=
  (fields "Action" d).andThen fun es =>
    Action.mk
      <$> field es "description" "description" none (nullable text)
      <*> field es "headers" "headers" [] (Parameter.readAll .header)
      <*> field es "queryParameters" "query_parameters" [] (Parameter.readAll .query)
      <*> field es "body" "body" [] (Body.readAll mediaType)
      <*> field es "responses" "responses" [] (Response.readAll mediaType)

def SecurityScheme.read (d : Datum) : Checked SecurityScheme :=
  (fields "SecurityScheme" d).andThen fun es =>
    SecurityScheme.mk
      <$> field es "type" "type" none (nullable text)
      <*> field es "description" "description" none (nullable text)
      <*> field es "describedBy" "described_by" none (nullable (entries anything))
      <*> field es "settings" "settings" [] (fun d => entries anything (orEmpty d))

end RamlBridge.Raml

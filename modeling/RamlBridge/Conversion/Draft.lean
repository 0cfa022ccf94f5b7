import RamlBridge.Conversion.Document
import RamlBridge.Raml.Parts

/-!
A description whose fields were never read by a model, and what converting it comes to. Only a
draft without resources and security schemes can be converted.
-/
namespace RamlBridge.Conversion

structure Draft where
  title : Datum
  version : Datum
  baseUri : Datum
  protocols : Datum
  baseUriParameters : Datum
  documentation : Datum
  schemas : Datum
  securitySchemes : Datum
  resources : Datum
deriving Inhabited

namespace Draft

def baseUriText : Datum → Report (Option BaseUri)
  | .scalar (.text s) => parseBaseUri (some s)
  | d => if d.isGiven then .stop .missingPart else .ok none

/-- The members that a value has when it is gone through: of a text its characters, of a map its
keys. -/
def members (d : Datum) : Except Stop (List Datum) :=
  match Raml.pairParts? d with
  | some parts => .ok parts
  | none => .error .wrongKind

def entryLists : List Datum → Except Stop (List (List (Scalar × Datum)))
  | [] => .ok []
  | .map es :: rest => (entryLists rest).map (es :: ·)
  | _ :: _ => .error .missingPart

def registerEntry (registry : Registry) (p : Scalar × Datum) : Report Registry :=
  match p.2 with
  | .scalar (.text s) =>
    match p.1.plainText with
    | some name => registry.register name s
    | none => .stop .integerTooLong
  | d =>
    match d.plainText with
    | some t => .fail (.malformedSchema t (some .notText))
    | none => .stop .integerTooLong

def registerEntries (registry : Registry) : List (Scalar × Datum) → Report Registry
  | [] => .ok registry
  | p :: rest => do
    let registry ← registerEntry registry p
    registerEntries registry rest

/-- Declares the schemas of every map of a list, up to the first member that is no map. -/
def registerMaps (registry : Registry) : List Datum → Report Registry
  | [] => .ok registry
  | .map es :: rest => do
    let registry ← registerEntries registry es
    registerMaps registry rest
  | _ :: _ => .stop .missingPart

/-- Checks the declared parameters of a base URI, which are looked at once a prefix is hoisted. -/
def checkParameters (baseUri : Option BaseUri) (declared : Datum) : Except Stop Unit :=
  if baseUri.any fun uri => uri.hoistedPrefix ≠ "" then
    match declared with
    | .scalar .null => .error .wrongKind
    | d =>
      match Raml.looseEntries d with
      | .accepted _ => .ok ()
      | .refused _ => .error .wrongShape
      | .stopped _ => .error .wrongKind
  else .ok ()

def checkResources : Datum → Except Stop Unit
  | .map [] => .ok ()
  | _ => .error .missingPart

def checkSchemes (d : Datum) : Except Stop Unit := do
  let lists ← entryLists (← members d)
  if lists.all List.isEmpty then .ok () else .error .missingPart

def checkDocumentation (d : Datum) : Except Stop Unit :=
  if d.isGiven then do
    let _ ← members d
    .error .missingPart
  else .ok ()

def infoText (field : String) (d : Datum) : Checked (Option String) :=
  Checked.under (.key field) (Checked.nullable Checked.text d)

def info (draft : Draft) : Except Stop Swagger.Info :=
  let read := Swagger.Info.mk
    <$> infoText "title" (if draft.title.isGiven then draft.title else .null)
    <*> infoText "version" draft.version
    <*> pure none
  match read with
  | .accepted i => .ok i
  | .refused faults => .error (.faults faults)
  | .stopped _ => .error .wrongKind

def lowerAll : List Datum → Except Stop (List String)
  | [] => .ok []
  | .scalar (.text s) :: rest => (lowerAll rest).map (Text.lower s :: ·)
  | _ :: _ => .error .missingPart

def protocolSchemes (d : Datum) (baseUri : Option BaseUri) : Except Stop (Option (List String)) :=
  if d.isGiven then do .ok (some (← lowerAll (← members d)))
  else .ok (baseUri.map fun uri => [uri.scheme])

def assemble (draft : Draft) : Report Swagger.Document := do
  let baseUri ← baseUriText draft.baseUri
  let registry ← registerMaps .empty (← Report.ofExcept (members draft.schemas))
  Report.ofExcept (checkParameters baseUri draft.baseUriParameters)
  Report.ofExcept (checkResources draft.resources)
  Report.ofExcept (checkSchemes draft.securitySchemes)
  Report.ofExcept (checkDocumentation draft.documentation)
  let info ← Report.ofExcept draft.info
  let schemes ← Report.ofExcept (protocolSchemes draft.protocols baseUri)
  .ok {
    info := info
    host := baseUri.map BaseUri.host
    basePath := baseUri.map BaseUri.basePath
    schemes := schemes
    paths := []
    definitions := registry.definitions
    securityDefinitions := none }

def convert (draft : Draft) (indent : Option Int) : Report String := do
  documentText (← draft.assemble.told) indent

end Draft

end RamlBridge.Conversion

import RamlBridge.Conversion.Report
import RamlBridge.Swagger.Basic
import RamlBridge.Text.Blank
import RamlBridge.Text.Case

/-!
Security schemes as security definitions. An OAuth 2.0 scheme gives one definition for every
authorization grant that it lists.
-/
namespace RamlBridge.Conversion

/-- The flow of a grant and the addresses that it needs. -/
structure GrantFlow where
  flow : Swagger.Flow
  needsAuthorizationUri : Bool
  needsTokenUri : Bool
deriving DecidableEq, Repr

def grantFlow? (grant : String) : Option GrantFlow :=
  match grant with
  | "code" => some ⟨.accessCode, true, true⟩
  | "token" => some ⟨.implicit, true, false⟩
  | "owner" => some ⟨.password, false, true⟩
  | "credentials" => some ⟨.application, false, true⟩
  | _ => none

/-- The members of a list; any other value is a list of itself alone. -/
def asList : Option Datum → List Datum
  | none | some (.scalar .null) => []
  | some (.list items) => items
  | some (.pair a b) => [a, b]
  | some d => [d]

/-- The texts of values, which all of them have to have. -/
def texts (ds : List Datum) : Except Stop (List String) :=
  match ds.mapM Datum.plainText with
  | some ts => .ok ts
  | none => .error .integerTooLong

/-- The texts of values up to the first that has none. -/
def leadingTexts : List Datum → List String
  | [] => []
  | d :: rest =>
    match d.plainText with
    | some t => t :: leadingTexts rest
    | none => []

/-- Grants whose names did not occur before, whatever their case, with a warning for every other
one. -/
def distinctGrants (scheme : String) (seen : List String) : List String → List String × List Warning
  | [] => ([], [])
  | grant :: rest =>
    if Text.lower grant ∈ seen then
      let (grants, warnings) := distinctGrants scheme seen rest
      (grants, .repeatedGrant grant scheme :: warnings)
    else
      let (grants, warnings) := distinctGrants scheme (Text.lower grant :: seen) rest
      (grant :: grants, warnings)

/-- A setting without quotes around it; it has to be there. -/
def setting (scheme : String) (settings : Entries Datum) (key : String) : Except Stop String :=
  match settings.find? key with
  | none | some (.scalar .null) =>
    .error (.failure (.securityScheme scheme ("missing '" ++ key ++ "' setting")))
  | some d =>
    match d.plainText with
    | some t => .ok (Text.unquoted t)
    | none => .error .integerTooLong

def settingIf (needed : Bool) (scheme : String) (settings : Entries Datum) (key : String) :
    Except Stop (Option String) :=
  if needed then (setting scheme settings key).map some else .ok none

def grantDefinition (name : String) (scheme : Raml.SecurityScheme) (scopes : Entries String)
    (f : GrantFlow) : Except Stop Swagger.SecurityDefinition := do
  let authorizationUrl ←
    settingIf f.needsAuthorizationUri name scheme.settings "authorizationUri"
  let tokenUrl ← settingIf f.needsTokenUri name scheme.settings "accessTokenUri"
  .ok (.oauth2 scheme.description f.flow authorizationUrl tokenUrl scopes)

/-- The definitions of grants, in order; an unknown grant is passed over with a warning. A grant
that is the only one takes the name of the scheme, and one of several takes its flow into the
name. -/
def grantDefinitions (name : String) (scheme : Raml.SecurityScheme) (scopes : Entries String)
    (single : Bool) (definitions : Entries Swagger.SecurityDefinition) :
    List String → Report (Entries Swagger.SecurityDefinition)
  | [] => .ok definitions
  | grant :: rest =>
    match grantFlow? (Text.lower grant) with
    | none => do
      Report.warnIf true (.unknownGrant grant name)
      grantDefinitions name scheme scopes single definitions rest
    | some f => do
      let definition ← Report.ofExcept (grantDefinition name scheme scopes f)
      let key := if single then name else name ++ "_" ++ f.flow.name
      grantDefinitions name scheme scopes single (definitions.put key definition) rest

def scopeEntries (settings : Entries Datum) : Except Stop (Entries String) :=
  (texts (asList (settings.find? "scopes"))).map fun ts => Entries.ofList (ts.map fun t => (t, ""))

/-- The definitions of an OAuth 2.0 scheme, which has to list a grant. -/
def mapOAuth2 (name : String) (scheme : Raml.SecurityScheme) :
    Report (Entries Swagger.SecurityDefinition) :=
  match asList (scheme.settings.find? "authorizationGrants") with
  | [] => .fail (.securityScheme name "'authorizationGrants' must not be empty")
  | grants => do
    let (distinct, warnings) := distinctGrants name [] (leadingTexts grants)
    ⟨.ok (), warnings⟩
    let _ ← Report.ofExcept (texts grants)
    let scopes ← Report.ofExcept (scopeEntries scheme.settings)
    grantDefinitions name scheme scopes (distinct.length == 1) [] distinct

/-- The definitions of a scheme; a scheme of any other type has none. -/
def mapScheme (name : String) (scheme : Raml.SecurityScheme) :
    Report (Entries Swagger.SecurityDefinition) :=
  if scheme.type = some "Basic Authentication" then .ok [(name, .basic scheme.description)]
  else if scheme.type = some "OAuth 2.0" then mapOAuth2 name scheme
  else .ok []

/-- The definitions of schemes one after the other, added to those before them. -/
def mapEachScheme (definitions : Entries Swagger.SecurityDefinition) :
    List (String × Raml.SecurityScheme) → Report (Entries Swagger.SecurityDefinition)
  | [] => .ok definitions
  | (name, scheme) :: rest => do
    let more ← mapScheme name scheme
    mapEachScheme (definitions.putAll more) rest

def mapSchemes (schemes : List (Entries Raml.SecurityScheme)) :
    Report (Entries Swagger.SecurityDefinition) :=
  mapEachScheme [] schemes.flatten

end RamlBridge.Conversion

import RamlBridge.Proofs.Conversion.Document
import RamlBridge.Proofs.Conversion.Operations
import RamlBridge.Proofs.Conversion.Paths
import RamlBridge.Proofs.Conversion.Registry

/-!
The schemas of a document: the definitions, and every place where a body or a response has one.
-/
namespace RamlBridge.Conversion

open Raml (Place places)

/-- An operation has the schemas that its action comes to once the declared names are known. -/
structure SchemasShown (declared : List String) (action : Raml.Action)
    (operation : Swagger.Operation) : Prop where
  noBody : action.bodies = [] → parametersAt .body operation = []
  body : action.bodies ≠ [] → ∃ schema, Emits declared action.bodies schema ∧
    parametersAt .body operation = [bodyParameter schema]
  noResponses : action.responses = [] → operation.responses = defaultResponses
  responses : action.responses ≠ [] → operation.responses.names = action.responses.names ∧
    ∀ q ∈ operation.responses, ∃ r, (q.1, r) ∈ action.responses ∧
      Emits declared r.bodies q.2.schema

theorem schemasShown_of_mapOperation {schemas : List (Entries String)} {registry : Registry}
    (known : (Registry.empty.registerAll schemas).outcome = .ok registry) {scope : Scope}
    {action : Raml.Action} {operation : Swagger.Operation}
    (h : mapOperation registry scope action = .ok operation) :
    SchemasShown (Entries.names schemas.flatten) action operation := by
  obtain ⟨body, responses, hbody, hresponses, same⟩ := mapOperation_eq_ok h
  have atBody := parametersAt_body h hbody
  have shown : operation.responses = responses := by rw [same]; rfl
  constructor
  · intro noBody
    rw [noBody] at hbody
    cases hbody
    exact atBody
  · intro given
    rcases mapBody_eq_ok hbody with ⟨noBody, _⟩ | ⟨schema, hschema, rfl⟩
    · exact absurd noBody given
    · exact ⟨schema, emits_of_resolveFirst known hschema, atBody⟩
  · intro noResponse
    rw [noResponse] at hresponses
    cases hresponses
    exact shown
  · intro given
    obtain ⟨codes, each⟩ := mapResponses_eq_ok given hresponses
    rw [shown]
    refine ⟨codes, fun q hq => ?_⟩
    obtain ⟨r, hr, hschema⟩ := each q hq
    exact ⟨r, hr, emits_of_resolveFirst known hschema⟩

/-- The definitions of a document are the declared schemas, each name with its last text, and every
operation has the schemas of the action that it comes from: a reference to a definition wherever
the text of a schema is a declared name, and otherwise the object that the text denotes. -/
theorem schemas_document {root : Raml.Root} {swagger : Swagger.Document}
    (made : (document root).outcome = .ok swagger) :
    swagger.definitions.names = firstOccurrences (Entries.names root.schemas.flatten) ∧
    (∀ name definition, swagger.definitions.find? name = some definition →
      ∃ text members, Entries.last? root.schemas.flatten name = some text ∧
        Json.parse text = .ok (.object members) ∧ definition = definitionOf members) ∧
    ∃ baseUri, (parseBaseUri root.baseUri).outcome = .ok baseUri ∧
      ∀ path item method operation, swagger.paths.find? path = some item →
        item.find? method = some operation →
        ∃ p q, Entries.last? ((places root.resources).map fun p =>
            (prefixOf baseUri ++ p.uri, p)) path = some p ∧
          Entries.last? (p.resource.actions.map fun q => (Text.lower q.1, q)) method = some q ∧
          SchemasShown (Entries.names root.schemas.flatten) q.2 operation := by
  obtain ⟨baseUri, registry, parts⟩ := assembled_of_document made
  rw [parts.definitions_eq]
  refine ⟨Registry.names_registerAll parts.schemas_declared,
    fun name definition => Registry.find?_registerAll parts.schemas_declared,
    baseUri, parts.baseUri_read, ?_⟩
  intro path item method operation hitem hoperation
  obtain ⟨p, hp, atPlace⟩ := source_of_mapPaths parts.paths_mapped hitem
  obtain ⟨q, hq, ofAction⟩ := source_of_mapActions atPlace hoperation
  exact ⟨p, q, hp, hq, schemasShown_of_mapOperation parts.schemas_declared ofAction⟩

/-- A method whose request names a declared schema that could be read as JSON as well, behind a
media type without a schema. -/
def postingAction : Raml.Action :=
  ⟨none, [], [], [("text/xml", ⟨some "", .null⟩), ("application/json", ⟨some "\x7b\x7d", .null⟩)],
    [("200", ⟨none, [("application/json", ⟨some "\x7b \x7d", .null⟩)]⟩)]⟩

def sharedSchemas : Raml.Root :=
  ⟨"", none, none, [], none, [], [],
    [[("Pet", "\x7b\x7d")], [("\x7b\x7d", "\x7b\x7d"), ("Pet", " \x7b\x7d")]], [],
    [("/pets", ⟨none, none, [], [("POST", postingAction)], []⟩)]⟩

theorem document_sharedSchemas :
    ∃ swagger item operation, (document sharedSchemas).outcome = .ok swagger ∧
      swagger.paths.find? "/pets" = some item ∧ item.find? "post" = some operation := by
  rw [document, Report.outcome_told, assemble_outcome]
  exact ⟨_, _, _, rfl, rfl, rfl⟩

/-- A declared name is referred to even where its text could be read as JSON. -/
theorem schemas_document_shared :
    ∃ swagger item operation, (document sharedSchemas).outcome = .ok swagger ∧
      swagger.definitions.names = ["Pet", "\x7b\x7d"] ∧
      swagger.paths.find? "/pets" = some item ∧ item.find? "post" = some operation ∧
      parametersAt .body operation =
        [bodyParameter (some [("$ref", .text "#/definitions/\x7b\x7d")])] := by
  obtain ⟨swagger, item, operation, made, hitem, hoperation⟩ := document_sharedSchemas
  obtain ⟨names, _, baseUri, hbaseUri, shown⟩ := schemas_document made
  refine ⟨swagger, item, operation, made, names, hitem, hoperation, ?_⟩
  cases hbaseUri
  obtain ⟨p, q, hp, hq, schemas⟩ := shown _ _ _ _ hitem hoperation
  cases hp
  cases hq
  obtain ⟨schema, emits, atBody⟩ := schemas.body (by decide)
  rw [atBody]
  have first : Registry.firstSchema postingAction.bodies = some "\x7b\x7d" := rfl
  cases emits with
  | absent nothing =>
    rw [firstSchema_eq_none_iff.mpr nothing] at first
    cases first
  | reference named _ =>
    rw [firstSchema_eq_some_iff.mpr named] at first
    cases first
    rfl
  | inline named undeclared _ =>
    rw [firstSchema_eq_some_iff.mpr named] at first
    cases first
    exact absurd (by decide) undeclared

end RamlBridge.Conversion

import RamlBridge.Proofs.Conversion.Operations
import RamlBridge.Proofs.Conversion.Paths
import RamlBridge.Proofs.Conversion.Registry
import RamlBridge.Proofs.Conversion.RootParameters

/-!
What holds of everything that a document holds: of its parameters, of the schemas that its
operations use, and of its definitions. It follows from what holds of the parameters and of the
schema texts of the description.
-/
namespace RamlBridge

structure Raml.Root.EveryParameter (P : Raml.Parameter → Prop) (root : Raml.Root) : Prop where
  baseUri : ∀ p ∈ root.baseUriParameters, P p.2
  uri : ∀ keys r, Raml.Leads root.resources keys r → ∀ p ∈ r.uriParameters, P p.2
  headers : ∀ keys r, Raml.Leads root.resources keys r → ∀ a ∈ r.actions, ∀ p ∈ a.2.headers, P p.2
  query : ∀ keys r, Raml.Leads root.resources keys r → ∀ a ∈ r.actions,
    ∀ p ∈ a.2.queryParameters, P p.2

def Raml.Action.schemaTexts (action : Raml.Action) : List String :=
  (action.bodies ++ action.responses.flatMap fun r => r.2.bodies).filterMap fun b => b.2.schema

/-- Properties hold of all parameters of a description and of all its schema texts. -/
structure Raml.Root.Every (P : Raml.Parameter → Prop) (T : String → Prop) (root : Raml.Root) :
    Prop where
  parameters : root.EveryParameter P
  declared : ∀ p ∈ root.schemas.flatten, T p.2
  used : ∀ keys r, Raml.Leads root.resources keys r → ∀ a ∈ r.actions,
    ∀ text ∈ a.2.schemaTexts, T text

def Swagger.Document.parameters (d : Swagger.Document) : List Swagger.Parameter :=
  d.paths.flatMap fun path => path.2.flatMap fun o => o.2.parameters.getD []

/-- Properties hold of all parameters of a document, of the schemas of all its responses, and of
all its definitions. -/
structure Swagger.Document.Every (Q : Swagger.Parameter → Prop) (S D : Entries Json → Prop)
    (d : Swagger.Document) : Prop where
  parameters : ∀ q ∈ d.parameters, Q q
  responses : ∀ path ∈ d.paths, ∀ o ∈ path.2, ∀ r ∈ o.2.responses, ∀ schema ∈ r.2.schema, S schema
  definitions : ∀ e ∈ d.definitions, D e.2

namespace Conversion

open Raml (Place places)

variable {P : Raml.Parameter → Prop} {T : String → Prop} {Q : Swagger.Parameter → Prop}
  {S D : Entries Json → Prop}

/-- Properties of what a description holds pass over to what comes of it. -/
structure PassesOver (P : Raml.Parameter → Prop) (T : String → Prop) (Q : Swagger.Parameter → Prop)
    (S D : Entries Json → Prop) : Prop where
  mapped : ∀ location name p, P p → Q (parameterOf location name p)
  unsaid : P (.plain true)
  body : ∀ schema : Option (Entries Json), (∀ members ∈ schema, S members) →
    Q (bodyParameter schema)
  reference : ∀ name, S [("$ref", .text name)]
  inline : ∀ text members, T text → Json.parse text = .ok (.object members) →
    S (withoutTopKeys members)
  definition : ∀ text members, T text → Json.parse text = .ok (.object members) →
    D (definitionOf members)

theorem PassesOver.schema (passes : PassesOver P T Q S D) {declared : List String}
    {bodies : Entries Raml.Body} {schema : Option (Entries Json)}
    (emits : Emits declared bodies schema) (texts : ∀ b ∈ bodies, ∀ text ∈ b.2.schema, T text) :
    ∀ members ∈ schema, S members := by
  intro members hmembers
  cases emits with
  | absent => cases hmembers
  | reference =>
    cases hmembers
    exact passes.reference _
  | inline first undeclared parsed =>
    cases hmembers
    obtain ⟨before, mediaType, body, after, rfl, named, _⟩ := first
    rw [← withoutTopKeys_eq]
    exact passes.inline _ _ (texts (mediaType, body) (by simp) _ named) parsed

section Operations

variable {schemas : List (Entries String)} {registry : Registry} {scope : Scope}
  {action : Raml.Action} {operation : Swagger.Operation}

/-- What passes over from every parameter that a method declares or sees, and from every schema
text of it, holds of all parameters and responses of its operation. -/
theorem every_operation (passes : PassesOver P T Q S D)
    (known : (Registry.empty.registerAll schemas).outcome = .ok registry)
    (h : mapOperation registry scope action = .ok operation)
    (headers : ∀ p ∈ action.headers, P p.2) (query : ∀ p ∈ action.queryParameters, P p.2)
    (visible : ∀ p ∈ scope.parameters, P p.2) (texts : ∀ text ∈ action.schemaTexts, T text) :
    (∀ q ∈ operation.parameters.getD [], Q q) ∧
      ∀ r ∈ operation.responses, ∀ schema ∈ r.2.schema, S schema := by
  obtain ⟨body, responses, hbody, hresponses, rfl⟩ := mapOperation_eq_ok h
  have ofDeclared (location : Swagger.Location) {ps : Entries Raml.Parameter}
      (each : ∀ p ∈ ps, P p.2) :
      ∀ q ∈ ps.map (fun p => parameterOf location p.1 p.2), Q q := by
    intro q hq
    obtain ⟨p, hp, rfl⟩ := List.mem_map.mp hq
    exact passes.mapped location p.1 p.2 (each p hp)
  have ofBody : ∀ q ∈ body.toList, Q q := by
    intro q hq
    rcases mapBody_eq_ok hbody with ⟨_, rfl⟩ | ⟨schema, hschema, rfl⟩
    · cases hq
    · rw [List.mem_singleton.mp hq]
      refine passes.body schema (passes.schema (emits_of_resolveFirst known hschema) ?_)
      intro b hb text htext
      exact texts text (List.mem_filterMap.mpr ⟨b, List.mem_append_left _ hb, htext⟩)
  constructor
  · intro q hq
    rw [operationOf, getD_nonEmpty] at hq
    simp only [List.mem_append] at hq
    rcases hq with ((inHeader | inQuery) | inBody) | inPath
    · exact ofDeclared .header headers q inHeader
    · exact ofDeclared .query query q inQuery
    · exact ofBody q inBody
    · exact ofDeclared .path visible q inPath
  · intro q hq
    by_cases none : action.responses = []
    · rw [none] at hresponses
      cases hresponses
      rw [List.mem_singleton.mp hq]
      intro schema given
      cases given
    · obtain ⟨r, hr, hschema⟩ := (mapResponses_eq_ok none hresponses).2 q hq
      refine passes.schema (emits_of_resolveFirst known hschema) ?_
      intro b hb text htext
      have inResponses : b ∈ action.responses.flatMap fun r => r.2.bodies :=
        List.mem_flatMap.mpr ⟨_, hr, hb⟩
      exact texts text (List.mem_filterMap.mpr ⟨b, List.mem_append_right _ inResponses, htext⟩)

end Operations

/-- What holds of every declared parameter, and of one of which nothing is said, holds of all that
are visible at a place. -/
theorem every_along {root : Raml.Root} (every : root.EveryParameter P) (unsaid : P (.plain true))
    (baseUri : Option BaseUri) {p : Place} (hp : p ∈ places root.resources) :
    ∀ q ∈ (Scope.along ⟨rootParameters baseUri root.baseUriParameters⟩ p.way).parameters,
      P q.2 := by
  intro q hq
  rw [Scope.parameters_along] at hq
  rcases Entries.mem_putAll hq with forAll | onTheWay
  · rcases mem_rootParameters forAll with declared | added
    · exact every.baseUri q declared
    · rw [added]
      exact unsaid
  · obtain ⟨s, hs, hq⟩ := List.mem_flatMap.mp onTheWay
    obtain ⟨keys, leads⟩ := Raml.leads_of_mem_way hp hs
    exact every.uri keys s.2 leads q hq

/-- What passes over from every parameter and every schema text of a description holds of all that
its document holds. -/
theorem every_document (passes : PassesOver P T Q S D) {root : Raml.Root} (every : root.Every P T)
    {swagger : Swagger.Document} (made : (document root).outcome = .ok swagger) :
    swagger.Every Q S D := by
  obtain ⟨baseUri, registry, parts⟩ := assembled_of_document made
  have operation : ∀ path ∈ swagger.paths, ∀ o ∈ path.2, (∀ q ∈ o.2.parameters.getD [], Q q) ∧
      ∀ r ∈ o.2.responses, ∀ schema ∈ r.2.schema, S schema := by
    intro path hpath o ho
    obtain ⟨p, hp, hitem⟩ := source_of_mem_mapPaths parts.paths_mapped hpath
    obtain ⟨a, ha, hoperation⟩ := source_of_mem_mapActions hitem ho
    have leads := Raml.leads_of_mem_places hp
    exact every_operation passes parts.schemas_declared hoperation
      (every.parameters.headers p.keys p.resource leads a ha)
      (every.parameters.query p.keys p.resource leads a ha)
      (every_along every.parameters passes.unsaid baseUri hp)
      (every.used p.keys p.resource leads a ha)
  refine ⟨?parameters, fun path hpath o ho => (operation path hpath o ho).2, ?definitions⟩
  case parameters =>
    intro q hq
    obtain ⟨path, hpath, hq⟩ := List.mem_flatMap.mp hq
    obtain ⟨o, ho, hq⟩ := List.mem_flatMap.mp hq
    exact (operation path hpath o ho).1 q hq
  case definitions =>
    intro e he
    rw [parts.definitions_eq] at he
    have distinct : registry.definitions.names.Nodup := by
      rw [Registry.names_registerAll parts.schemas_declared]
      exact nodup_firstOccurrences _
    obtain ⟨text, members, last, parsed, same⟩ :=
      Registry.find?_registerAll parts.schemas_declared (Entries.find?_of_mem distinct he)
    have declared : (e.1, text) ∈ root.schemas.flatten :=
      List.mem_reverse.mp (Entries.mem_of_find? last)
    rw [same]
    exact passes.definition text members (every.declared _ declared) parsed

end Conversion

end RamlBridge

import RamlBridge.Proofs.Conversion.Schemas
import RamlBridge.Proofs.Conversion.UpToBodies

/-!
The sections of a document do not interfere. Of the declared schemas the paths see only which names
are declared, and of the security schemes they see nothing.
-/
namespace RamlBridge.Conversion

/-- Registries of the same names find one schema among bodies. -/
theorem showsSame_of_names {registry other : Registry}
    (same : ∀ name, registry.contains name = other.contains name) :
    ShowsSame registry other Eq := by
  refine ⟨congrArg Entries.names, ?_⟩
  rintro bodies _ rfl
  simp only [Registry.resolveFirst, Registry.resolve, same]

/-- Registries of schemas that are declared under the same names know the same names. -/
theorem contains_congr {schemas schemas' : List (Entries String)} {registry other : Registry}
    (h : (Registry.empty.registerAll schemas).outcome = .ok registry)
    (h' : (Registry.empty.registerAll schemas').outcome = .ok other)
    (names : ∀ name, name ∈ Entries.names schemas.flatten ↔ name ∈ Entries.names schemas'.flatten)
    (name : String) : registry.contains name = other.contains name := by
  rw [Bool.eq_iff_iff, Registry.contains_registerAll h, Registry.contains_registerAll h', names]

/-- Descriptions that differ in their schemas and security schemes alone, and that declare schemas
under the same names, give documents that differ in their definitions and security definitions
alone: in the former only if the schemas differ, and in the latter only if the security schemes
do. -/
theorem sections_document {root other : Raml.Root} {swagger swagger' : Swagger.Document}
    (agree : other =
      { root with schemas := other.schemas, securitySchemes := other.securitySchemes })
    (names : ∀ name, name ∈ Entries.names root.schemas.flatten ↔
      name ∈ Entries.names other.schemas.flatten)
    (made : (document root).outcome = .ok swagger)
    (made' : (document other).outcome = .ok swagger') :
    (swagger.info = swagger'.info ∧ swagger.host = swagger'.host ∧
      swagger.basePath = swagger'.basePath ∧ swagger.schemes = swagger'.schemes ∧
      swagger.paths = swagger'.paths) ∧
    (root.schemas = other.schemas → swagger.definitions = swagger'.definitions) ∧
    (root.securitySchemes = other.securitySchemes →
      swagger.securityDefinitions = swagger'.securityDefinitions) := by
  obtain ⟨baseUri, registry, paths, definitions, hbaseUri, hregistry, hpaths, hdefinitions, rfl⟩ :=
    document_eq_ok made
  obtain ⟨baseUri', registry', paths', definitions', hbaseUri', hregistry', hpaths', hdefinitions',
    rfl⟩ := document_eq_ok made'
  have sameBaseUri : baseUri = baseUri' := by
    rw [agree, hbaseUri] at hbaseUri'
    exact Except.ok.inj hbaseUri'
  subst sameBaseUri
  have samePaths : paths = paths' := by
    have same := showsSame_of_names (contains_congr hregistry hregistry' names)
    rw [same.mapPaths_eq (Raml.forestUpTo_refl (fun _ => rfl) root.resources)] at hpaths
    rw [agree, hpaths] at hpaths'
    exact Except.ok.inj hpaths'
  have sameInfo : info root = info other := by
    rw [agree]
    rfl
  have sameSchemes : schemes root.protocols baseUri = schemes other.protocols baseUri := by
    rw [agree]
  refine ⟨⟨sameInfo, rfl, rfl, sameSchemes, samePaths⟩, ?_, ?_⟩
  · intro sameSchemas
    rw [← sameSchemas, hregistry] at hregistry'
    cases hregistry'
    rfl
  · intro sameSecurity
    rw [← sameSecurity, hdefinitions] at hdefinitions'
    cases hdefinitions'
    rfl

/-- The same API with its schemas in another order, one of them with another text, and with a
security scheme. -/
def regroupedSchemas : Raml.Root :=
  { sharedSchemas with
    schemas := [[("\x7b\x7d", " \x7b\x7d"), ("Pet", "\x7b\x7d")]]
    securitySchemes := [[("b", ⟨some "Basic Authentication", none, none, []⟩)]] }

theorem document_regroupedSchemas :
    ∃ swagger, (document regroupedSchemas).outcome = .ok swagger ∧
      swagger.definitions.names = ["\x7b\x7d", "Pet"] ∧
      swagger.securityDefinitions = some [("b", .basic none)] := by
  rw [document, Report.outcome_told, assemble_outcome]
  exact ⟨_, rfl, rfl, rfl⟩

/-- The definitions of the two differ in their order, and the paths do not differ. -/
theorem sections_document_regrouped :
    ∃ swagger swagger', (document sharedSchemas).outcome = .ok swagger ∧
      (document regroupedSchemas).outcome = .ok swagger' ∧
      swagger.definitions.names ≠ swagger'.definitions.names ∧ swagger.paths = swagger'.paths := by
  obtain ⟨swagger, _, _, made, _, _⟩ := document_sharedSchemas
  obtain ⟨swagger', made', names', _⟩ := document_regroupedSchemas
  have names (name : String) : name ∈ Entries.names sharedSchemas.schemas.flatten ↔
      name ∈ Entries.names regroupedSchemas.schemas.flatten := by
    have three : Entries.names sharedSchemas.schemas.flatten = ["Pet", "\x7b\x7d", "Pet"] := rfl
    have two : Entries.names regroupedSchemas.schemas.flatten = ["\x7b\x7d", "Pet"] := rfl
    rw [three, two]
    simp only [List.mem_cons, List.not_mem_nil, or_false]
    constructor
    · rintro (pet | empty | pet)
      · exact Or.inr pet
      · exact Or.inl empty
      · exact Or.inr pet
    · rintro (empty | pet)
      · exact Or.inr (Or.inl empty)
      · exact Or.inl pet
  obtain ⟨⟨_, _, _, _, paths⟩, _⟩ := sections_document rfl names made made'
  have order : swagger.definitions.names = ["Pet", "\x7b\x7d"] := by
    obtain ⟨_, registry, parts⟩ := assembled_of_document made
    rw [parts.definitions_eq, Registry.names_registerAll parts.schemas_declared]
    rfl
  refine ⟨swagger, swagger', made, made', ?_, paths⟩
  rw [order, names']
  decide

end RamlBridge.Conversion

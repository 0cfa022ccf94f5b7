import RamlBridge.Conversion.Document
import RamlBridge.Proofs.Conversion.Report

/-!
The parts that a document is put together from.
-/
namespace RamlBridge.Conversion

/-- The prefix that a base URI puts before every path. -/
def prefixOf (baseUri : Option BaseUri) : String :=
  (baseUri.map BaseUri.hoistedPrefix).getD ""

/-- A document is put together from a base URI and the declared schemas. -/
structure Assembled (root : Raml.Root) (d : Swagger.Document) (baseUri : Option BaseUri)
    (registry : Registry) : Prop where
  baseUri_read : (parseBaseUri root.baseUri).outcome = .ok baseUri
  schemas_declared : (Registry.empty.registerAll root.schemas).outcome = .ok registry
  paths_mapped : (mapPaths registry (prefixOf baseUri)
    ⟨rootParameters baseUri root.baseUriParameters⟩ root.resources).outcome = .ok d.paths
  definitions_eq : d.definitions = registry.definitions
  schemes_mapped : ∃ definitions, (mapSchemes root.securitySchemes).outcome = .ok definitions ∧
    d.securityDefinitions = nonEmpty definitions

theorem assemble_outcome (root : Raml.Root) :
    (assemble root).outcome =
      (parseBaseUri root.baseUri).outcome >>= fun baseUri =>
      (Registry.empty.registerAll root.schemas).outcome >>= fun registry =>
      (mapPaths registry (prefixOf baseUri) ⟨rootParameters baseUri root.baseUriParameters⟩
        root.resources).outcome >>= fun paths =>
      (mapSchemes root.securitySchemes).outcome >>= fun securityDefinitions =>
      .ok {
        info := info root
        host := baseUri.map BaseUri.host
        basePath := baseUri.map BaseUri.basePath
        schemes := schemes root.protocols baseUri
        paths := paths
        definitions := registry.definitions
        securityDefinitions := nonEmpty securityDefinitions } := by
  simp only [assemble, Report.outcome_bind, Report.outcome_ok, prefixOf]

/-- A document that comes out is put together from the parts that a description comes to. -/
theorem document_eq_ok {root : Raml.Root} {d : Swagger.Document}
    (h : (document root).outcome = .ok d) :
    ∃ baseUri registry paths definitions,
      (parseBaseUri root.baseUri).outcome = .ok baseUri ∧
      (Registry.empty.registerAll root.schemas).outcome = .ok registry ∧
      (mapPaths registry (prefixOf baseUri) ⟨rootParameters baseUri root.baseUriParameters⟩
        root.resources).outcome = .ok paths ∧
      (mapSchemes root.securitySchemes).outcome = .ok definitions ∧
      d = {
        info := info root
        host := baseUri.map BaseUri.host
        basePath := baseUri.map BaseUri.basePath
        schemes := schemes root.protocols baseUri
        paths := paths
        definitions := registry.definitions
        securityDefinitions := nonEmpty definitions } := by
  have made : (assemble root).outcome = .ok d := by
    rw [document, Report.outcome_told] at h
    cases hassemble : (assemble root).outcome with
    | error s => rw [hassemble] at h; cases h
    | ok d' =>
      rw [hassemble] at h
      exact h
  rw [assemble_outcome] at made
  obtain ⟨baseUri, hbaseUri, made⟩ := bind_eq_ok made
  obtain ⟨registry, hregistry, made⟩ := bind_eq_ok made
  obtain ⟨paths, hpaths, made⟩ := bind_eq_ok made
  obtain ⟨definitions, hdefinitions, made⟩ := bind_eq_ok made
  cases made
  exact ⟨baseUri, registry, paths, definitions, hbaseUri, hregistry, hpaths, hdefinitions, rfl⟩

theorem assembled_of_document {root : Raml.Root} {d : Swagger.Document}
    (h : (document root).outcome = .ok d) :
    ∃ baseUri registry, Assembled root d baseUri registry := by
  obtain ⟨baseUri, registry, paths, definitions, hbaseUri, hregistry, hpaths, hdefinitions, rfl⟩ :=
    document_eq_ok h
  exact ⟨baseUri, registry, hbaseUri, hregistry, hpaths, rfl, definitions, hdefinitions, rfl⟩

end RamlBridge.Conversion

import RamlBridge.Proofs.Conversion.Operations
import RamlBridge.Proofs.Conversion.Paths
import RamlBridge.Proofs.Conversion.RootParameters
import RamlBridge.Proofs.Raml.Root

/-!
The path parameters of an operation: what the base URI and the resources on the way down declare,
each name where it is first declared and as it is last declared.
-/
namespace RamlBridge.Conversion

open Raml (Place places)

/-- What is declared for a place: for every path, and on the way down from the top. -/
def declarationsAt (baseUri : Option BaseUri) (declared : Entries Raml.Parameter) (p : Place) :
    List (String × Raml.Parameter) :=
  rootDeclarations baseUri declared ++ p.uriParameters

/-- The scope at a place holds what is declared for it. -/
theorem parameters_along_rootParameters (baseUri : Option BaseUri)
    {declared : Entries Raml.Parameter} (distinct : declared.names.Nodup) (p : Place) :
    (Scope.along ⟨rootParameters baseUri declared⟩ p.way).parameters =
      Entries.ofList (declarationsAt baseUri declared p) := by
  rw [Scope.parameters_along, rootParameters_eq baseUri distinct, declarationsAt,
    Entries.ofList_append]
  rfl

/-- Path parameters show declarations in a sequence: each of their names once, where it is first
declared and as it is last declared. -/
structure Shows (parameters : List Swagger.Parameter)
    (declarations : List (String × Raml.Parameter)) : Prop where
  names : parameters.map (·.name) = firstOccurrences (Entries.names declarations)
  mapped : ∀ q ∈ parameters, ∃ declaration,
    Entries.last? declarations q.name = some declaration ∧
      mapParameter .path q.name (.ofParameter declaration) = .ok q

theorem Shows.declared {parameters : List Swagger.Parameter}
    {declarations : List (String × Raml.Parameter)} (h : Shows parameters declarations)
    {q : Swagger.Parameter} (hq : q ∈ parameters) : q.name ∈ Entries.names declarations := by
  rw [← mem_firstOccurrences, ← h.names]
  exact List.mem_map_of_mem hq

theorem Shows.nodup {parameters : List Swagger.Parameter}
    {declarations : List (String × Raml.Parameter)} (h : Shows parameters declarations) :
    (parameters.map (·.name)).Nodup := by
  rw [h.names]
  exact nodup_firstOccurrences _

theorem shows_ofList (declarations : List (String × Raml.Parameter)) :
    Shows ((Entries.ofList declarations).map fun p => parameterOf .path p.1 p.2) declarations where
  names := by
    rw [List.map_map, ← Entries.names_ofList]
    rfl
  mapped := by
    intro q hq
    obtain ⟨⟨name, declaration⟩, hmem, rfl⟩ := List.mem_map.mp hq
    have found := Entries.find?_of_mem (Entries.nodup_names_ofList declarations) hmem
    rw [Entries.find?_ofList] at found
    exact ⟨declaration, found, mapParameter_ofParameter .path name declaration⟩

theorem mem_uriParameters {p : Place} {name : String} :
    name ∈ p.uriParameters.names ↔ ∃ s ∈ p.way, name ∈ s.2.uriParameters.names := by
  simp only [Place.uriParameters, Entries.names, List.mem_map, List.mem_flatMap]
  constructor
  · rintro ⟨q, ⟨s, hs, hq⟩, rfl⟩
    exact ⟨s, hs, q, hq, rfl⟩
  · rintro ⟨s, hs, q, hq, rfl⟩
    exact ⟨q, ⟨s, hs, hq⟩, rfl⟩

/-- The path parameters of every operation are what is declared for its place. Nothing that is
only declared beside the place or below it is among them, and without a hoisted prefix nothing
that is only declared for the base URI. -/
theorem pathParameters_document {d : Datum} {root : Raml.Root} {swagger : Swagger.Document}
    (accepted : Raml.Root.read d = .accepted root)
    (made : (document root).outcome = .ok swagger) :
    ∃ baseUri, (parseBaseUri root.baseUri).outcome = .ok baseUri ∧
      ∀ before p after, places root.resources = before ++ p :: after →
        (∀ q ∈ after, q.uri ≠ p.uri) →
        ∃ item, swagger.paths.find? (prefixOf baseUri ++ p.uri) = some item ∧
          item.names = firstOccurrences (p.resource.actions.names.map Text.lower) ∧
          ∀ method operation, item.find? method = some operation →
            Shows (parametersAt .path operation)
              (declarationsAt baseUri root.baseUriParameters p) ∧
            ((parametersAt .path operation).map (·.name)).Nodup ∧
            ∀ q ∈ parametersAt .path operation,
              (∃ s ∈ p.way, q.name ∈ s.2.uriParameters.names) ∨
                prefixOf baseUri ≠ "" ∧
                  q.name ∈ Entries.names (rootDeclarations baseUri root.baseUriParameters) := by
  obtain ⟨baseUri, registry, parts⟩ := assembled_of_document made
  have distinct := Raml.Root.nodup_baseUriParameters accepted
  refine ⟨baseUri, parts.baseUri_read, fun before p after split last => ?_⟩
  obtain ⟨item, hitem, found⟩ := find?_mapPaths parts.paths_mapped split last
  refine ⟨item, found, names_mapActions hitem, fun method operation hoperation => ?_⟩
  obtain ⟨action, _, haction⟩ := source_of_mapActions hitem hoperation
  have shows : Shows (parametersAt .path operation)
      (declarationsAt baseUri root.baseUriParameters p) := by
    rw [parametersAt_path haction, parameters_along_rootParameters baseUri distinct]
    exact shows_ofList _
  refine ⟨shows, shows.nodup, fun q hq => ?_⟩
  have declared := shows.declared hq
  rw [declarationsAt, Entries.names, List.map_append, List.mem_append] at declared
  rcases declared with above | onTheWay
  · refine Or.inr ⟨fun noPrefix => ?_, above⟩
    rw [rootDeclarations_of_prefix_empty noPrefix] at above
    exact absurd above List.not_mem_nil
  · exact Or.inl (mem_uriParameters.mp onTheWay)

def innerEntries : List (Scalar × Datum) :=
  [(.text "uriParameters", .map [(.text "id", .map [(.text "type", .text "integer")])]),
    (.text "get", .null)]

def innerResource : Raml.Resource :=
  ⟨none, none, [("id", { Raml.Parameter.plain true with type := .integer })],
    [("get", ⟨none, [], [], [], []⟩)], []⟩

def outerEntries : List (Scalar × Datum) :=
  [(.text "uriParameters", .map [(.text "id", .null), (.text "v", .null)]),
    (.text "/b", .map innerEntries)]

def outerResource : Raml.Resource :=
  ⟨none, none, [("id", .plain true), ("v", .plain true)], [], [("/b", innerResource)]⟩

/-- Resources behind a templated base URI: one below another, and one beside them. -/
def templatedDescription : Datum :=
  .map [(.text "baseUri", .text "http://h/\x7bv\x7d"),
    (.text "baseUriParameters", .map [(.text "region", .null)]),
    (.text "/a", .map outerEntries),
    (.text "/c", .map [(.text "uriParameters", .map [(.text "k", .null)])])]

def templatedRoot : Raml.Root :=
  ⟨"", none, some "http://h/\x7bv\x7d", [], none, [("region", .plain true)], [], [], [],
    [("/a", outerResource), ("/c", ⟨none, none, [("k", .plain true)], [], []⟩)]⟩

theorem read_innerEntries :
    Raml.Resource.read .null (.map innerEntries) = .accepted innerResource :=
  (Raml.Resource.ofEntries_eq .null innerEntries).trans rfl

theorem read_outerEntries :
    Raml.Resource.read .null (.map outerEntries) = .accepted outerResource := by
  have parts : Raml.Parts.ofEntries outerEntries = .accepted ⟨[(.text "/b", .map innerEntries)], [],
      [(.text "uriParameters", .map [(.text "id", .null), (.text "v", .null)])]⟩ := rfl
  refine (Raml.Resource.ofEntries_eq .null outerEntries).trans ?_
  simp only [parts, Checked.andThen, List.map_cons, List.map_nil, read_innerEntries]
  rfl

theorem read_templatedDescription :
    Raml.Root.read templatedDescription = .accepted templatedRoot := by
  have side : Raml.Resource.read .null (.map [(.text "uriParameters",
      .map [(.text "k", .null)])]) = .accepted ⟨none, none, [("k", .plain true)], [], []⟩ :=
    (Raml.Resource.ofEntries_eq _ _).trans rfl
  have resources : Raml.topResources [(.text "baseUri", .text "http://h/\x7bv\x7d"),
      (.text "baseUriParameters", .map [(.text "region", .null)]),
      (.text "/a", .map outerEntries),
      (.text "/c", .map [(.text "uriParameters", .map [(.text "k", .null)])])] =
    .accepted [(.text "/a", .map outerEntries),
      (.text "/c", .map [(.text "uriParameters", .map [(.text "k", .null)])])] := rfl
  change Raml.Root.ofEntries .null _ = _
  simp only [Raml.Root.ofEntries, resources, Checked.andThen, List.map_cons, List.map_nil,
    read_outerEntries, side]
  rfl

theorem parseBaseUri_templatedRoot : (parseBaseUri templatedRoot.baseUri).outcome =
    .ok (some ⟨"h", "http", "/", "/\x7bv\x7d"⟩) := by
  change (parseBaseUri (some "http://h/\x7bv\x7d")).outcome = _
  rfl

theorem document_templatedRoot : ∃ made, (document templatedRoot).outcome = .ok made := by
  rw [document, Report.outcome_told, assemble_outcome, parseBaseUri_templatedRoot]
  exact ⟨_, rfl⟩

/-- The operation of the inner resource sees the base URI and the resource above it, with its own
declaration in the place of the outer one; the resource beside it adds nothing. -/
theorem pathParameters_document_templated :
    ∃ made item operation, (document templatedRoot).outcome = .ok made ∧
      made.paths.find? "/\x7bv\x7d/a/b" = some item ∧ item.find? "get" = some operation ∧
      (parametersAt .path operation).map (·.name) = ["region", "v", "id"] := by
  obtain ⟨made, hmade⟩ := document_templatedRoot
  obtain ⟨baseUri, hbaseUri, entry⟩ := pathParameters_document read_templatedDescription hmade
  rw [parseBaseUri_templatedRoot] at hbaseUri
  cases hbaseUri
  obtain ⟨item, found, methods, operations⟩ := entry [⟨[], "/a", outerResource⟩]
    ⟨[("/a", outerResource)], "/b", innerResource⟩ _ rfl (by decide)
  have answers : "get" ∈ item.names := methods ▸ List.mem_cons_self
  obtain ⟨operation, hoperation⟩ := Option.isSome_iff_exists.mp (Entries.contains_iff.mpr answers)
  have shows := (operations "get" operation hoperation).1
  exact ⟨made, item, operation, hmade, found, hoperation, shows.names⟩

end RamlBridge.Conversion

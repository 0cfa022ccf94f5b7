import Mathlib.Data.List.Nodup
import RamlBridge.Proofs.Conversion.PathParameters

/-!
The template variables of a path. A path is put together from the hoisted prefix and the URIs on
the way down, its parameters from what is declared there: a variable of the prefix is always
listed, and any other one only if it is declared.
-/
namespace RamlBridge.Conversion

open Raml (Place places)

/-- What a place has a path parameter for: the variables of the hoisted prefix, once there is one
what the base URI declares, and what is declared on the way down. -/
def IsListed (root : Raml.Root) (baseUri : Option BaseUri) (p : Place) (name : String) : Prop :=
  name ∈ templateVariables (prefixOf baseUri) ∨
    prefixOf baseUri ≠ "" ∧ name ∈ root.baseUriParameters.names ∨
    ∃ s ∈ p.way, name ∈ s.2.uriParameters.names

theorem names_rootDeclarations (uri : BaseUri) (declared : Entries Raml.Parameter)
    (given : uri.hoistedPrefix ≠ "") :
    Entries.names (rootDeclarations (some uri) declared) =
      declared.names ++ uri.hoistedParameters.filter (· ∉ declared.names) := by
  rw [rootDeclarations, if_neg given, Entries.names, List.map_append, List.map_map]
  exact congrArg _ (List.map_id _)

/-- The declarations for every path are of the variables of the prefix, and of what the base URI
declares. -/
theorem mem_rootDeclarations {baseUri : Option BaseUri} {declared : Entries Raml.Parameter}
    {name : String} :
    name ∈ Entries.names (rootDeclarations baseUri declared) ↔
      name ∈ templateVariables (prefixOf baseUri) ∨
        prefixOf baseUri ≠ "" ∧ name ∈ declared.names := by
  by_cases noPrefix : prefixOf baseUri = ""
  · rw [rootDeclarations_of_prefix_empty noPrefix, noPrefix]
    constructor
    · intro h
      cases h
    · rintro (h | ⟨given, _⟩)
      · cases h
      · exact absurd rfl given
  · cases baseUri with
    | none => exact absurd rfl noPrefix
    | some uri =>
      have hoisted : uri.hoistedParameters = templateVariables (prefixOf (some uri)) := rfl
      rw [names_rootDeclarations uri declared noPrefix, List.mem_append, List.mem_filter, hoisted,
        decide_eq_true_iff]
      constructor
      · rintro (inDeclared | ⟨inPrefix, _⟩)
        · exact Or.inr ⟨noPrefix, inDeclared⟩
        · exact Or.inl inPrefix
      · rintro (inPrefix | ⟨_, inDeclared⟩)
        · by_cases inDeclared : name ∈ declared.names
          · exact Or.inl inDeclared
          · exact Or.inr ⟨inPrefix, inDeclared⟩
        · exact Or.inl inDeclared

theorem mem_declarationsAt {root : Raml.Root} {baseUri : Option BaseUri} {p : Place}
    {name : String} :
    name ∈ Entries.names (declarationsAt baseUri root.baseUriParameters p) ↔
      IsListed root baseUri p name := by
  rw [declarationsAt, Entries.names, List.map_append, List.mem_append, IsListed, ← or_assoc]
  exact or_congr mem_rootDeclarations mem_uriParameters

/-- Parameters that show declarations have one parameter for each name that is declared, and none
for any other. -/
theorem Shows.count {parameters : List Swagger.Parameter}
    {declarations : List (String × Raml.Parameter)} (h : Shows parameters declarations)
    (name : String) :
    (name ∈ Entries.names declarations → (parameters.map (·.name)).count name = 1) ∧
      (name ∉ Entries.names declarations → (parameters.map (·.name)).count name = 0) := by
  rw [← mem_firstOccurrences, ← h.names]
  exact ⟨List.count_eq_one_of_mem h.nodup, List.count_eq_zero_of_not_mem⟩

/-- A template variable of a path has exactly one path parameter in each of its operations if it
stands in the hoisted prefix, or is declared for the base URI that has one, or is declared on the
way down to the resource. Any other one has none. -/
theorem templateVariables_document {d : Datum} {root : Raml.Root} {swagger : Swagger.Document}
    (accepted : Raml.Root.read d = .accepted root)
    (made : (document root).outcome = .ok swagger) :
    ∃ baseUri, (parseBaseUri root.baseUri).outcome = .ok baseUri ∧
      ∀ path item method operation, swagger.paths.find? path = some item →
        item.find? method = some operation →
        ∃ p, Entries.last? ((places root.resources).map fun p =>
            (prefixOf baseUri ++ p.uri, p)) path = some p ∧
          ∀ v ∈ templateVariables path,
            (IsListed root baseUri p v →
              ((parametersAt .path operation).map (·.name)).count v = 1) ∧
            (¬ IsListed root baseUri p v →
              ((parametersAt .path operation).map (·.name)).count v = 0) := by
  obtain ⟨baseUri, registry, parts⟩ := assembled_of_document made
  have distinct := Raml.Root.nodup_baseUriParameters accepted
  refine ⟨baseUri, parts.baseUri_read, ?_⟩
  intro path item method operation hitem hoperation
  obtain ⟨p, last, hactions⟩ := source_of_mapPaths parts.paths_mapped hitem
  obtain ⟨action, _, haction⟩ := source_of_mapActions hactions hoperation
  have shows : Shows (parametersAt .path operation)
      (declarationsAt baseUri root.baseUriParameters p) := by
    rw [parametersAt_path haction, parameters_along_rootParameters baseUri distinct]
    exact shows_ofList _
  refine ⟨p, last, ?_⟩
  intro v _
  rw [← mem_declarationsAt]
  exact shows.count v

theorem operation_templatedRoot :
    ∃ made item operation, (document templatedRoot).outcome = .ok made ∧
      made.paths.find? "/\x7bv\x7d/a/b" = some item ∧ item.find? "get" = some operation := by
  rw [document, Report.outcome_told, assemble_outcome, parseBaseUri_templatedRoot]
  exact ⟨_, _, _, rfl, rfl, rfl⟩

/-- The inner resource lists the variable of the prefix once. -/
theorem templateVariables_document_templated :
    ∃ made item operation, (document templatedRoot).outcome = .ok made ∧
      made.paths.find? "/\x7bv\x7d/a/b" = some item ∧ item.find? "get" = some operation ∧
      ((parametersAt .path operation).map (·.name)).count "v" = 1 := by
  obtain ⟨made, item, operation, hmade, hitem, hoperation⟩ := operation_templatedRoot
  obtain ⟨baseUri, hbaseUri, counts⟩ :=
    templateVariables_document read_templatedDescription hmade
  rw [parseBaseUri_templatedRoot] at hbaseUri
  cases hbaseUri
  obtain ⟨p, _, each⟩ := counts _ item _ operation hitem hoperation
  have hoisted : "v" ∈ templateVariables "/\x7bv\x7d" := by decide
  exact ⟨made, item, operation, hmade, hitem, hoperation,
    (each "v" (by decide)).1 (Or.inl hoisted)⟩

def undeclaredInner : List (Scalar × Datum) :=
  [(.text "get", .null)]

def undeclaredOuter : List (Scalar × Datum) :=
  [(.text "/b/\x7by\x7d", .map undeclaredInner)]

def undeclaredDescription : Datum :=
  .map [(.text "/a/\x7bx\x7d", .map undeclaredOuter)]

def undeclaredResource : Raml.Resource :=
  ⟨none, none, [], [], [("/b/\x7by\x7d", ⟨none, none, [], [("get", ⟨none, [], [], [], []⟩)], []⟩)]⟩

def undeclaredRoot : Raml.Root :=
  ⟨"", none, none, [], none, [], [], [], [], [("/a/\x7bx\x7d", undeclaredResource)]⟩

theorem read_undeclaredOuter :
    Raml.Resource.read .null (.map undeclaredOuter) = .accepted undeclaredResource := by
  have inner : Raml.Resource.read .null (.map undeclaredInner) =
      .accepted ⟨none, none, [], [("get", ⟨none, [], [], [], []⟩)], []⟩ :=
    (Raml.Resource.ofEntries_eq .null undeclaredInner).trans rfl
  have parts : Raml.Parts.ofEntries undeclaredOuter =
      .accepted ⟨[(.text "/b/\x7by\x7d", .map undeclaredInner)], [], []⟩ := rfl
  refine (Raml.Resource.ofEntries_eq .null undeclaredOuter).trans ?_
  simp only [parts, Checked.andThen, List.map_cons, List.map_nil, inner]
  rfl

theorem read_undeclaredDescription :
    Raml.Root.read undeclaredDescription = .accepted undeclaredRoot := by
  have resources : Raml.topResources [(.text "/a/\x7bx\x7d", .map undeclaredOuter)] =
    .accepted [(.text "/a/\x7bx\x7d", .map undeclaredOuter)] := rfl
  change Raml.Root.ofEntries .null _ = _
  simp only [Raml.Root.ofEntries, resources, Checked.andThen, List.map_cons, List.map_nil,
    read_undeclaredOuter]
  rfl

/-- The operation below both lists neither of the two variables of its path. -/
theorem templateVariables_undeclared :
    ∃ made item operation, Raml.Root.read undeclaredDescription = .accepted undeclaredRoot ∧
      (document undeclaredRoot).outcome = .ok made ∧
      made.paths.find? "/a/\x7bx\x7d/b/\x7by\x7d" = some item ∧
      item.find? "get" = some operation ∧
      templateVariables "/a/\x7bx\x7d/b/\x7by\x7d" = ["x", "y"] ∧
      ((parametersAt .path operation).map (·.name)).count "x" = 0 ∧
      ((parametersAt .path operation).map (·.name)).count "y" = 0 := by
  rw [document, Report.outcome_told, assemble_outcome]
  exact ⟨_, _, _, read_undeclaredDescription, rfl, rfl, rfl, by decide, rfl, rfl⟩

end RamlBridge.Conversion

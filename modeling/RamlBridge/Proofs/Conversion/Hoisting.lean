import RamlBridge.Proofs.Conversion.FixedBaseUri
import RamlBridge.Proofs.Conversion.Listing
import RamlBridge.Proofs.Conversion.PathParameters
import RamlBridge.Proofs.Swagger.Members

/-!
Hoisting a prefix out of the base URI comes to the same as nesting all resources in one that
stands under the prefix and declares the parameters of the base URI.
-/
namespace RamlBridge.Conversion

open Raml (Place places placesOf)

/-- The parameters of a base URI as those of a resource: the declared ones, and behind them a text
that must be given for every other variable of the prefix. -/
def nestedParameters (uri : BaseUri) (declared : Entries Raml.Parameter) :
    Entries Raml.Parameter :=
  declared ++ (firstOccurrences (uri.hoistedParameters.filter (· ∉ declared.names))).map
    (·, .plain true)

def nestedResource (uri : BaseUri) (root : Raml.Root) : Raml.Resource :=
  ⟨none, none, nestedParameters uri root.baseUriParameters, [], root.resources⟩

/-- A description with all its resources in one, under another base URI. -/
def nested (uri : BaseUri) (text : String) (root : Raml.Root) : Raml.Root :=
  { root with
    baseUri := some text
    resources := [(uri.hoistedPrefix, nestedResource uri root)] }

/-- A document with a path in front at which nothing answers. -/
def withEmptyPath (path : String) (swagger : Swagger.Document) : Swagger.Document :=
  { swagger with paths := (path, []) :: swagger.paths }

theorem ofList_nestedParameters {uri : BaseUri} (given : uri.hoistedPrefix ≠ "")
    {declared : Entries Raml.Parameter} (distinct : declared.names.Nodup) :
    Entries.ofList (nestedParameters uri declared) = rootParameters (some uri) declared := by
  have undeclared : ∀ name ∈ uri.hoistedParameters.filter (· ∉ declared.names),
      name ∉ declared.names := fun name h => of_decide_eq_true (List.mem_filter.mp h).2
  have again : ∀ name ∈ firstOccurrences (uri.hoistedParameters.filter (· ∉ declared.names)),
      name ∉ declared.names := fun name h => undeclared name (mem_firstOccurrences.mp h)
  rw [rootParameters_eq _ distinct, rootDeclarations, if_neg given, nestedParameters,
    Entries.ofList_append, Entries.ofList_append, Entries.ofList_of_nodup distinct,
    Entries.putAll_const _ undeclared, Entries.putAll_const _ again,
    firstOccurrences_of_nodup (nodup_firstOccurrences _)]

/-- Below a key that begins with a slash, no URI is empty. -/
theorem uri_ne_empty {resources : Entries Raml.Resource}
    (slashed : ∀ key ∈ resources.names, Raml.isPath (.text key) = true) {p : Place}
    (hp : p ∈ places resources) : p.uri ≠ "" := by
  obtain ⟨key, r, rest, hmem, hkeys⟩ := (Raml.leads_of_mem_places hp).head
  intro empty
  rw [Place.uri, hkeys, String.join_cons, String.append_eq_empty_iff] at empty
  have path := slashed key (List.mem_map_of_mem hmem)
  rw [empty.1] at path
  exact absurd path (by decide)

section Nesting

variable {uri : BaseUri} {root : Raml.Root} {registry : Registry}

/-- A prefix and a URI above the forest are one in front of the other. -/
theorem pathEntry_prefix (registry : Registry) (above : String) (scope : Scope) :
    pathEntry registry "" above scope = pathEntry registry above "" scope := by
  funext p
  simp only [pathEntry, String.empty_append]

/-- The places of the nested forest are the prefix, and behind it those of the forest itself with
the same parameters in sight. -/
theorem mapM_pathEntry_nested (given : uri.hoistedPrefix ≠ "")
    (distinct : root.baseUriParameters.names.Nodup) :
    (places [(uri.hoistedPrefix, nestedResource uri root)]).mapM
        (pathEntry registry "" "" ⟨[]⟩) =
      ((places root.resources).mapM (pathEntry registry uri.hoistedPrefix ""
        ⟨rootParameters (some uri) root.baseUriParameters⟩)).map
          ((uri.hoistedPrefix, []) :: ·) := by
  have scope : (⟨[]⟩ : Scope).extend (nestedResource uri root).uriParameters =
      ⟨rootParameters (some uri) root.baseUriParameters⟩ :=
    congrArg Scope.mk (ofList_nestedParameters given distinct)
  have top : pathEntry registry "" "" ⟨[]⟩
      ⟨[], uri.hoistedPrefix, nestedResource uri root⟩ = .ok (uri.hoistedPrefix, []) := by
    rw [pathEntry_top, String.empty_append, String.empty_append]
    rfl
  have single : places [(uri.hoistedPrefix, nestedResource uri root)] =
      ⟨[], uri.hoistedPrefix, nestedResource uri root⟩ ::
        (places root.resources).map (Place.below uri.hoistedPrefix (nestedResource uri root)) := by
    rw [Raml.places_cons, Raml.placesOf_eq]
    exact List.append_nil _
  rw [single, mapM_cons_eq, top, ok_bind, List.mapM_map, pathEntry_comp_below, scope,
    String.empty_append, pathEntry_prefix]

theorem mapPaths_nested (given : uri.hoistedPrefix ≠ "")
    (distinct : root.baseUriParameters.names.Nodup)
    (slashed : ∀ key ∈ root.resources.names, Raml.isPath (.text key) = true) :
    (mapPaths registry "" ⟨[]⟩ [(uri.hoistedPrefix, nestedResource uri root)]).outcome =
      (mapPaths registry uri.hoistedPrefix ⟨rootParameters (some uri) root.baseUriParameters⟩
        root.resources).outcome.map ((uri.hoistedPrefix, []) :: ·) := by
  rw [mapPaths, mapPaths, visitAll_outcome, visitAll_outcome,
    mapM_pathEntry_nested given distinct]
  cases made : (places root.resources).mapM (pathEntry registry uri.hoistedPrefix ""
      ⟨rootParameters (some uri) root.baseUriParameters⟩) with
  | error s => rfl
  | ok entries =>
    -- No path below is the prefix itself, so the entry of the prefix stays in front, untouched.
    have new : uri.hoistedPrefix ∉ Entries.names entries := by
      intro hmem
      obtain ⟨q, hq, same⟩ := List.mem_map.mp hmem
      obtain ⟨p, hp, hentry⟩ := source_of_mapM made hq
      obtain ⟨item, _, rfl⟩ := map_eq_ok hentry
      rw [String.empty_append] at same
      exact uri_ne_empty slashed hp (String.append_eq_left_iff.mp same)
    exact congrArg Except.ok (Entries.putAll_cons_of_not_mem new)

/-- Hoisting a prefix comes to the same as nesting the resources under it: the document of the
nested description is the same but for the path of the prefix itself. -/
theorem outcome_nested (distinct : root.baseUriParameters.names.Nodup)
    (read : (parseBaseUri root.baseUri).outcome = .ok (some uri))
    (given : uri.hoistedPrefix ≠ "")
    (slashed : ∀ key ∈ root.resources.names, Raml.isPath (.text key) = true)
    {text : String} (fixed : (parseBaseUri (some text)).outcome = .ok (some uri.fixed)) :
    (document (nested uri text root)).outcome =
      (document root).outcome.map (withEmptyPath uri.hoistedPrefix) := by
  have noParameters : rootParameters (some uri.fixed) root.baseUriParameters = [] := by
    simp only [rootParameters, BaseUri.fixed, if_true]
  have paths (registry : Registry) :
      (mapPaths registry (prefixOf (some uri.fixed))
          ⟨rootParameters (some uri.fixed) (nested uri text root).baseUriParameters⟩
          (nested uri text root).resources).outcome =
        (mapPaths registry (prefixOf (some uri))
          ⟨rootParameters (some uri) root.baseUriParameters⟩ root.resources).outcome.map
            ((uri.hoistedPrefix, []) :: ·) := by
    rw [show (nested uri text root).baseUriParameters = root.baseUriParameters from rfl,
      noParameters]
    exact mapPaths_nested given distinct slashed
  have baseUri : (parseBaseUri (nested uri text root).baseUri).outcome = .ok (some uri.fixed) :=
    fixed
  simp only [document, Report.outcome_told, assemble_outcome, read, baseUri, ok_bind, paths]
  change (Except.mapError _ ((Registry.empty.registerAll root.schemas).outcome >>= _)) = _
  cases (Registry.empty.registerAll root.schemas).outcome with
  | error s => rfl
  | ok registry =>
    simp only [ok_bind]
    cases (mapPaths registry (prefixOf (some uri))
        ⟨rootParameters (some uri) root.baseUriParameters⟩ root.resources).outcome with
    | error s => rfl
    | ok paths =>
      simp only [map_ok, ok_bind]
      change (Except.mapError _ ((mapSchemes root.securitySchemes).outcome >>= _)) = _
      cases (mapSchemes root.securitySchemes).outcome <;> rfl

/-- A path at which nothing answers makes no difference to whether the paths can be written. -/
theorem isWritable_emptyPath (path : String) (paths : Entries Swagger.PathItem) :
    (Json.ofEntries Swagger.PathItem.toJson ((path, []) :: paths)).encodable.isWritable = true ↔
      (Json.ofEntries Swagger.PathItem.toJson paths).encodable.isWritable = true := by
  simp only [Json.ofEntries, Entries.mapValues, Json.encodable, Json.isWritable,
    Json.membersWritable_eq, List.all_eq_true, Json.encodableMembers_eq, List.map_cons]
  exact Entries.forall_mem_ofList_cons (P := fun v => Json.isWritable v = true) rfl

theorem isWritable_withEmptyPath (path : String) (swagger : Swagger.Document) :
    (withEmptyPath path swagger).IsWritable ↔ swagger.IsWritable := by
  refine and_congr Iff.rfl ?_
  rw [Swagger.Document.toJson, Swagger.Document.toJson,
    Swagger.isWritable_present Swagger.documentNames rfl (by decide),
    Swagger.isWritable_present Swagger.documentNames rfl (by decide)]
  simp only [List.forall_mem_cons, withEmptyPath, Option.mem_some_iff, forall_eq',
    isWritable_emptyPath]

theorem documentText_withEmptyPath (path : String) (swagger : Swagger.Document)
    (indent : Option Int) :
    (∃ text, (documentText (withEmptyPath path swagger) indent).outcome = .ok text) ↔
      ∃ text, (documentText swagger indent).outcome = .ok text := by
  rw [exists_documentText_iff, exists_documentText_iff, isWritable_withEmptyPath]

/-- Hoisting is nesting: there is a base URI without the prefix, and under each such base URI the
nested description has the same document but for the path of the prefix, or the same failure, and
a text just if the description itself has one. -/
theorem document_nested {d : Datum} (accepted : Raml.Root.read d = .accepted root)
    (read : (parseBaseUri root.baseUri).outcome = .ok (some uri))
    (given : uri.hoistedPrefix ≠ "")
    (slashed : ∀ key ∈ root.resources.names, Raml.isPath (.text key) = true) :
    (∃ text, (parseBaseUri (some text)).outcome = .ok (some uri.fixed)) ∧
      ∀ text, (parseBaseUri (some text)).outcome = .ok (some uri.fixed) →
        (document (nested uri text root)).outcome =
            (document root).outcome.map (withEmptyPath uri.hoistedPrefix) ∧
          ∀ indent, (∃ t, (convert (nested uri text root) indent).outcome = .ok t) ↔
            ∃ t, (convert root indent).outcome = .ok t := by
  have distinct := Raml.Root.nodup_baseUriParameters accepted
  constructor
  · cases hbaseUri : root.baseUri with
    | none =>
      rw [hbaseUri] at read
      cases read
    | some text =>
      rw [hbaseUri] at read
      exact exists_fixed read
  · intro text fixed
    have same := outcome_nested distinct read given slashed fixed
    refine ⟨same, fun indent => ?_⟩
    simp only [convert, Report.outcome_bind, same]
    cases (document root).outcome with
    | error s => exact Iff.rfl
    | ok swagger => exact documentText_withEmptyPath _ swagger indent

end Nesting

/-- The resources behind a templated base URI, nested in one under the template. -/
theorem document_nested_templated : ∃ made, (document templatedRoot).outcome = .ok made ∧
    (document (nested ⟨"h", "http", "/", "/\x7bv\x7d"⟩ "http://h/" templatedRoot)).outcome =
      .ok (withEmptyPath "/\x7bv\x7d" made) := by
  obtain ⟨made, hmade⟩ := document_templatedRoot
  have slashed : ∀ key ∈ templatedRoot.resources.names, Raml.isPath (.text key) = true := by
    decide
  obtain ⟨_, others⟩ := document_nested read_templatedDescription parseBaseUri_templatedRoot
    (by decide) slashed
  obtain ⟨same, _⟩ := others "http://h/" rfl
  rw [hmade] at same
  exact ⟨made, hmade, same⟩

end RamlBridge.Conversion

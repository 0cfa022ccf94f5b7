import RamlBridge.Proofs.Conversion.PathParameters
import RamlBridge.Proofs.Raml.Sources

/-!
The shape of the operations of a document: what their lists hold and in which order, and which
parts of them go together.
-/
namespace RamlBridge.Conversion

open Raml (Place places)

def slot (q : Swagger.Parameter) : Swagger.Location × String :=
  (q.location, q.name)

def parametersOf (operation : Swagger.Operation) : List Swagger.Parameter :=
  operation.parameters.getD []

/-- What an action declares at a location. Path parameters are declared on the way to it. -/
def declaredAt (action : Raml.Action) (onTheWay : List (String × Raml.Parameter)) :
    Swagger.Location → List (String × Raml.Parameter)
  | .header => action.headers
  | .query => action.queryParameters
  | .path => onTheWay
  | .body => []

/-- The groups of names that the operation of an action lists, in order. -/
def groupsOf (action : Raml.Action) (onTheWay : List (String × Raml.Parameter)) :
    List (Swagger.Location × List String) :=
  [(.header, action.headers.names), (.query, action.queryParameters.names),
    (.body, if action.bodies.isEmpty then [] else ["body"]),
    (.path, firstOccurrences (Entries.names onTheWay))]

def slotsOf (groups : List (Swagger.Location × List String)) :
    List (Swagger.Location × String) :=
  groups.flatMap fun g => g.2.map (g.1, ·)

/-- A parameter that is no body has a type and no schema. It has items just if it is an array, and
is an array just if it is declared to be repeated. -/
structure PlainShape (declared : List (String × Raml.Parameter)) (q : Swagger.Parameter) :
    Prop where
  type : q.type.isSome
  schema : q.schema = none
  items_iff : q.items.isSome ↔ q.type = some "array"
  array_iff : ∃ p, Entries.last? declared q.name = some p ∧
    (q.type = some "array" ↔ p.repeats = true)

/-- The shape of the operation of an action. -/
structure OperationShape (action : Raml.Action) (onTheWay : List (String × Raml.Parameter))
    (operation : Swagger.Operation) : Prop where
  answers : operation.responses ≠ []
  codes : operation.responses.names =
    if action.responses.isEmpty then ["200"] else action.responses.names
  lists : operation.parameters ≠ some []
  slots : (parametersOf operation).map slot = slotsOf (groupsOf action onTheWay)
  distinct : ((parametersOf operation).map slot).Nodup
  body_iff : (∃ q ∈ parametersOf operation, q.location = .body) ↔ action.bodies ≠ []
  consumes_iff : operation.consumes.isSome ↔ action.bodies ≠ []
  body : ∀ q ∈ parametersOf operation, q.location = .body →
    q.name = "body" ∧ q.required = true ∧ q.type = none
  plain : ∀ q ∈ parametersOf operation, q.location ≠ .body →
    PlainShape (declaredAt action onTheWay q.location) q
  consumes : ∀ types, operation.consumes = some types → types = action.bodies.names ∧ types.Nodup
  produces : ∀ types, operation.produces = some types →
    types = firstOccurrences (action.responses.flatMap fun r => r.2.bodies.names) ∧ types.Nodup
  produces_iff : operation.produces = none ↔ ∀ r ∈ action.responses, r.2.bodies = []

section NonEmpty

variable {α : Type} {xs ys : List α}

theorem nonEmpty_eq_some (h : nonEmpty xs = some ys) : ys = xs ∧ xs ≠ [] := by
  cases xs with
  | nil => cases h
  | cons x rest => exact ⟨(Option.some.inj h).symm, List.cons_ne_nil x rest⟩

theorem nonEmpty_ne_nil : nonEmpty xs ≠ some [] := by
  intro h
  obtain ⟨same, given⟩ := nonEmpty_eq_some h
  exact given same.symm

theorem nonEmpty_eq_none : nonEmpty xs = none ↔ xs = [] := by
  cases xs with
  | nil => exact iff_of_true rfl rfl
  | cons x rest => exact iff_of_false (Option.some_ne_none _) (List.cons_ne_nil x rest)

theorem isSome_nonEmpty : (nonEmpty xs).isSome ↔ xs ≠ [] := by
  rw [Option.isSome_iff_ne_none, Ne, nonEmpty_eq_none]

end NonEmpty

/-- Groups of different locations without repeated names hold no slot twice. -/
theorem nodup_slotsOf {groups : List (Swagger.Location × List String)}
    (apart : (groups.map Prod.fst).Nodup) (distinct : ∀ g ∈ groups, g.2.Nodup) :
    (slotsOf groups).Nodup := by
  refine List.pairwise_flatMap.mpr ⟨fun g hg => ?_, ?_⟩
  · refine List.pairwise_map.mpr ((distinct g hg).imp fun other same => ?_)
    exact other (Prod.mk.inj same).2
  · refine (List.pairwise_map.mp apart).imp fun {g h} other s hs t ht same => ?_
    obtain ⟨a, _, rfl⟩ := List.mem_map.mp hs
    obtain ⟨b, _, rfl⟩ := List.mem_map.mp ht
    exact other (Prod.mk.inj same).1

theorem typeName_ne_array (t : Raml.ParameterType) : t.name ≠ "array" := by
  cases t <;> decide

theorem plainShape_parameterOf {declared : List (String × Raml.Parameter)} {name : String}
    {p : Raml.Parameter} (found : Entries.last? declared name = some p)
    (location : Swagger.Location) : PlainShape declared (parameterOf location name p) := by
  have array_iff : (parameterOf location name p).type = some "array" ↔ p.repeats = true := by
    cases hrepeats : p.repeats with
    | true => simp only [parameterOf, hrepeats, if_true]
    | false =>
      simp only [parameterOf, hrepeats, Bool.false_eq_true, if_false, Option.some.injEq,
        typeName_ne_array]
  refine ⟨rfl, rfl, ?_, p, found, array_iff⟩
  rw [array_iff, parameterOf]
  cases p.repeats with
  | true => exact iff_of_true rfl rfl
  | false => exact iff_of_false Bool.false_ne_true Bool.false_ne_true

section Shape

variable {registry : Registry} {scope : Scope} {action : Raml.Action}
  {onTheWay : List (String × Raml.Parameter)} {operation : Swagger.Operation}
  {body : Option Swagger.Parameter} {responses : Entries Swagger.Response}

theorem parametersOf_operationOf (scope : Scope) (action : Raml.Action)
    (body : Option Swagger.Parameter) (responses : Entries Swagger.Response) :
    parametersOf (operationOf scope action body responses) =
      action.headers.map (fun p => parameterOf .header p.1 p.2) ++
      action.queryParameters.map (fun p => parameterOf .query p.1 p.2) ++ body.toList ++
      scope.parameters.map fun p => parameterOf .path p.1 p.2 :=
  getD_nonEmpty _

theorem map_slot_parameterOf (location : Swagger.Location) (ps : Entries Raml.Parameter) :
    (ps.map fun p => parameterOf location p.1 p.2).map slot = ps.names.map (location, ·) := by
  rw [Entries.names, List.map_map, List.map_map]
  rfl

theorem mapBody_cases (h : mapBody registry action.bodies = .ok body) :
    (action.bodies = [] ∧ body = none) ∨
      (action.bodies ≠ [] ∧ ∃ schema, body = some (bodyParameter schema)) := by
  cases hbodies : action.bodies with
  | nil =>
    rw [hbodies] at h
    cases h
    exact Or.inl ⟨rfl, rfl⟩
  | cons b rest =>
    rw [hbodies] at h
    obtain ⟨schema, _, rfl⟩ := map_eq_ok h
    exact Or.inr ⟨List.cons_ne_nil b rest, schema, rfl⟩

theorem map_slot_body (h : mapBody registry action.bodies = .ok body) :
    body.toList.map slot =
      (if action.bodies.isEmpty then [] else ["body"]).map (Swagger.Location.body, ·) := by
  rcases mapBody_cases h with ⟨noBody, rfl⟩ | ⟨given, schema, rfl⟩
  · rw [noBody]
    rfl
  · rw [List.isEmpty_eq_false_iff.mpr given]
    rfl

theorem slots_operationOf (declares : scope.parameters = Entries.ofList onTheWay)
    (hbody : mapBody registry action.bodies = .ok body) :
    (parametersOf (operationOf scope action body responses)).map slot =
      slotsOf (groupsOf action onTheWay) := by
  simp only [parametersOf_operationOf, List.map_append, map_slot_parameterOf, map_slot_body hbody,
    declares, Entries.names_ofList, slotsOf, groupsOf, List.flatMap_cons, List.flatMap_nil,
    List.append_nil, List.append_assoc]

theorem nodup_slots (distinct : action.Distinct) (onTheWay : List (String × Raml.Parameter)) :
    (slotsOf (groupsOf action onTheWay)).Nodup := by
  have locations : (groupsOf action onTheWay).map Prod.fst = [.header, .query, .body, .path] := rfl
  refine nodup_slotsOf (by rw [locations]; decide) ?_
  simp only [groupsOf, List.forall_mem_cons, List.not_mem_nil, false_implies, implies_true,
    and_true]
  refine ⟨distinct.headers, distinct.queryParameters, ?_, nodup_firstOccurrences _⟩
  split
  · exact List.nodup_nil
  · exact List.pairwise_singleton _ "body"

theorem codes_mapResponses {declared : Entries Raml.Response}
    (h : mapResponses registry declared = .ok responses) :
    responses.names = if declared.isEmpty then ["200"] else declared.names := by
  cases declared with
  | nil =>
    cases h
    rfl
  | cons r rest => exact (mapResponses_eq_ok (List.cons_ne_nil r rest) h).1

theorem plain_operationOf (distinct : action.Distinct)
    (declares : scope.parameters = Entries.ofList onTheWay)
    (hbody : mapBody registry action.bodies = .ok body) {q : Swagger.Parameter}
    (hq : q ∈ parametersOf (operationOf scope action body responses))
    (other : q.location ≠ .body) : PlainShape (declaredAt action onTheWay q.location) q := by
  rw [parametersOf_operationOf, List.mem_append, List.mem_append, List.mem_append] at hq
  rcases hq with ((header | query) | body) | path
  · obtain ⟨p, hp, rfl⟩ := List.mem_map.mp header
    exact plainShape_parameterOf (Entries.last?_of_mem distinct.headers hp) .header
  · obtain ⟨p, hp, rfl⟩ := List.mem_map.mp query
    exact plainShape_parameterOf (Entries.last?_of_mem distinct.queryParameters hp) .query
  · rw [Option.mem_toList.mp body] at hbody
    exact absurd (location_of_mapBody hbody) other
  · rw [declares] at path
    obtain ⟨p, hp, rfl⟩ := List.mem_map.mp path
    -- Of the parameters declared on the way, the last one of each name is left in the scope.
    have found := Entries.find?_of_mem (Entries.nodup_names_ofList onTheWay) hp
    rw [Entries.find?_ofList] at found
    exact plainShape_parameterOf found .path

theorem mem_parametersAt {location : Swagger.Location} {q : Swagger.Parameter} :
    q ∈ parametersAt location operation ↔ q ∈ parametersOf operation ∧ q.location = location := by
  rw [parametersAt, List.mem_filter, decide_eq_true_iff]
  rfl

theorem body_mapOperation (h : mapOperation registry scope action = .ok operation) :
    ((∃ q ∈ parametersOf operation, q.location = .body) ↔ action.bodies ≠ []) ∧
      ∀ q ∈ parametersOf operation, q.location = .body →
        q.name = "body" ∧ q.required = true ∧ q.type = none := by
  obtain ⟨body, _, hbody, _, _⟩ := mapOperation_eq_ok h
  simp only [← mem_parametersAt, ← and_imp, parametersAt_body h hbody]
  rcases mapBody_cases hbody with ⟨noBody, rfl⟩ | ⟨given, schema, rfl⟩
  · refine ⟨iff_of_false ?_ (fun given => given noBody), ?_⟩
    · rintro ⟨q, hq⟩
      cases hq
    · intro q hq
      cases hq
  · refine ⟨iff_of_true ⟨_, List.mem_singleton_self _⟩ given, ?_⟩
    intro q hq
    rw [List.mem_singleton.mp hq]
    exact ⟨rfl, rfl, rfl⟩

theorem produces_eq_none_iff (responses : Entries Raml.Response) :
    nonEmpty (producedTypes responses) = none ↔ ∀ r ∈ responses, r.2.bodies = [] := by
  simp only [nonEmpty_eq_none, producedTypes, firstOccurrences_eq_nil, List.flatMap_eq_nil_iff,
    Entries.names, List.map_eq_nil_iff]

theorem operationShape_of_mapOperation (distinct : action.Distinct)
    (declares : scope.parameters = Entries.ofList onTheWay)
    (h : mapOperation registry scope action = .ok operation) :
    OperationShape action onTheWay operation := by
  have bodies := body_mapOperation h
  obtain ⟨body, responses, hbody, hresponses, rfl⟩ := mapOperation_eq_ok h
  have slots : (parametersOf (operationOf scope action body responses)).map slot =
      slotsOf (groupsOf action onTheWay) := slots_operationOf declares hbody
  have codes : responses.names = if action.responses.isEmpty then ["200"] else
      action.responses.names := codes_mapResponses hresponses
  -- Media types are keys of a map, so that dropping repetitions drops none of them.
  have types : firstOccurrences action.bodies.names = action.bodies.names :=
    firstOccurrences_of_nodup distinct.bodies
  exact {
    answers := by
      intro nothing
      rw [show responses = [] from nothing] at codes
      cases hdeclared : action.responses with
      | nil => rw [hdeclared] at codes; cases codes
      | cons r rest => rw [hdeclared] at codes; cases codes
    codes := codes
    lists := nonEmpty_ne_nil
    slots := slots
    distinct := slots ▸ nodup_slots distinct onTheWay
    body_iff := bodies.1
    consumes_iff := by
      change (nonEmpty (firstOccurrences action.bodies.names)).isSome ↔ action.bodies ≠ []
      rw [isSome_nonEmpty, types, Ne, Entries.names, List.map_eq_nil_iff]
    body := bodies.2
    plain := fun q hq other => plain_operationOf distinct declares hbody hq other
    consumes := by
      intro given hgiven
      obtain ⟨rfl, _⟩ := nonEmpty_eq_some hgiven
      rw [types]
      exact ⟨rfl, distinct.bodies⟩
    produces := by
      intro given hgiven
      obtain ⟨rfl, _⟩ := nonEmpty_eq_some hgiven
      exact ⟨rfl, nodup_firstOccurrences _⟩
    produces_iff := produces_eq_none_iff action.responses }

end Shape

/-- Every operation of a document has the shape of the action that it comes from: the last one
under its method, of the last resource under its path. -/
theorem shape_document {d : Datum} {root : Raml.Root} {swagger : Swagger.Document}
    (accepted : Raml.Root.read d = .accepted root)
    (made : (document root).outcome = .ok swagger) :
    ∃ baseUri, (parseBaseUri root.baseUri).outcome = .ok baseUri ∧
      ∀ path item method operation, (path, item) ∈ swagger.paths → (method, operation) ∈ item →
        ∃ p q, Entries.last? ((places root.resources).map fun p =>
            (prefixOf baseUri ++ p.uri, p)) path = some p ∧
          Entries.last? (p.resource.actions.map fun q => (Text.lower q.1, q)) method = some q ∧
          OperationShape q.2 (declarationsAt baseUri root.baseUriParameters p) operation := by
  obtain ⟨baseUri, registry, parts⟩ := assembled_of_document made
  refine ⟨baseUri, parts.baseUri_read, fun path item method operation hpath hmethod => ?_⟩
  have paths : swagger.paths.names.Nodup :=
    names_mapPaths parts.paths_mapped ▸ nodup_firstOccurrences _
  obtain ⟨p, hp, atPlace⟩ :=
    source_of_mapPaths parts.paths_mapped (Entries.find?_of_mem paths hpath)
  have methods : item.names.Nodup := names_mapActions atPlace ▸ nodup_firstOccurrences _
  obtain ⟨q, hq, ofAction⟩ :=
    source_of_mapActions atPlace (Entries.find?_of_mem methods hmethod)
  refine ⟨p, q, hp, hq, operationShape_of_mapOperation ?_ ?_ ofAction⟩
  · have leads := Raml.leads_of_mem_places (Entries.mem_of_last?_map hp)
    obtain ⟨a, _, hread⟩ := Raml.source_of_method accepted leads (Entries.mem_of_last?_map hq)
    exact Raml.Action.ensures_distinct _ a q.2 hread
  · exact parameters_along_rootParameters baseUri (Raml.Root.nodup_baseUriParameters accepted) p

def orderEntries : List (Scalar × Datum) :=
  [(.text "headers", .map [(.text "X-Trace", .null)]),
    (.text "queryParameters", .map [(.text "tag", .map [(.text "repeat", .scalar (.bool true))])]),
    (.text "body", .map [(.text "text/csv", .null), (.text "text/plain", .null)]),
    (.text "responses", .map [
      (.text "201", .map [(.text "body", .map [(.text "text/plain", .null)])]),
      (.text "404", .map [(.text "body", .map [(.text "text/html", .null),
        (.text "text/plain", .null)])])])]

def orderEntry : Scalar × Datum :=
  (.text "/order", .map [(.text "POST", .map orderEntries)])

def orderAction : Raml.Action :=
  ⟨none, [("X-Trace", .plain false)],
    [("tag", { Raml.Parameter.plain false with repeats := true })],
    [("text/csv", ⟨none, .null⟩), ("text/plain", ⟨none, .null⟩)],
    [("201", ⟨none, [("text/plain", ⟨none, .null⟩)]⟩),
      ("404", ⟨none, [("text/html", ⟨none, .null⟩), ("text/plain", ⟨none, .null⟩)]⟩)]⟩

def orderRoot : Raml.Root :=
  ⟨"", none, some "http://h/\x7bv\x7d", [], none, [], [], [], [],
    [("/order", ⟨none, none, [], [("post", orderAction)], []⟩)]⟩

theorem read_orderEntry : Raml.Resource.read .null orderEntry.2 =
    .accepted ⟨none, none, [], [("post", orderAction)], []⟩ := by
  have parts : Raml.Parts.ofEntries [(.text "POST", .map orderEntries)] =
      .accepted ⟨[], [(.text "post", .map orderEntries)], []⟩ := rfl
  have action : Raml.Action.read .null (.map orderEntries) = .accepted orderAction := rfl
  refine (Raml.Resource.ofEntries_eq .null _).trans ?_
  simp only [parts, Checked.andThen, Checked.entries, List.map_cons, List.map_nil, action]
  rfl

theorem read_order : Raml.Root.read
    (.map [(.text "baseUri", .text "http://h/\x7bv\x7d"), orderEntry]) = .accepted orderRoot := by
  have tops : Raml.topResources [(.text "baseUri", .text "http://h/\x7bv\x7d"), orderEntry] =
      .accepted [orderEntry] := rfl
  change Raml.Root.ofEntries .null _ = _
  simp only [Raml.Root.ofEntries, tops, Checked.andThen, List.map_cons, List.map_nil,
    read_orderEntry]
  rfl

theorem parseBaseUri_orderRoot : (parseBaseUri orderRoot.baseUri).outcome =
    .ok (some ⟨"h", "http", "/", "/\x7bv\x7d"⟩) :=
  parseBaseUri_templatedRoot

theorem document_order : ∃ made, (document orderRoot).outcome = .ok made ∧
    ∃ item operation, ("/\x7bv\x7d/order", item) ∈ made.paths ∧ ("post", operation) ∈ item := by
  rw [document, Report.outcome_told, assemble_outcome, parseBaseUri_orderRoot]
  exact ⟨_, rfl, _, _, List.mem_singleton_self _, List.mem_singleton_self _⟩

/-- The operation of the method: four slots in four groups, and the media types of both
responses. -/
theorem shape_document_order : ∃ made item operation, (document orderRoot).outcome = .ok made ∧
    ("/\x7bv\x7d/order", item) ∈ made.paths ∧ ("post", operation) ∈ item ∧
    (parametersOf operation).map slot =
      [(.header, "X-Trace"), (.query, "tag"), (.body, "body"), (.path, "v")] ∧
    operation.responses.names = ["201", "404"] ∧
    ∀ types, operation.produces = some types → types = ["text/plain", "text/html"] := by
  obtain ⟨made, hmade, item, operation, hitem, hoperation⟩ := document_order
  obtain ⟨baseUri, hbaseUri, shaped⟩ := shape_document read_order hmade
  rw [parseBaseUri_orderRoot] at hbaseUri
  cases hbaseUri
  obtain ⟨p, q, hp, hq, shape⟩ := shaped _ _ _ _ hitem hoperation
  cases hp
  cases hq
  exact ⟨made, item, operation, hmade, hitem, hoperation, shape.slots, shape.codes,
    fun types htypes => (shape.produces types htypes).1⟩

end RamlBridge.Conversion

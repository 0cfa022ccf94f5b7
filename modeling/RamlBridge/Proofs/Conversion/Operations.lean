import RamlBridge.Conversion.Paths
import RamlBridge.Proofs.Conversion.Parameters

/-!
The operation of a method. Only its bodies and responses can stop it, and each location holds the
parameters that were declared for it.
-/
namespace RamlBridge.Conversion

theorem getD_nonEmpty {α : Type} (xs : List α) : (nonEmpty xs).getD [] = xs := by
  cases xs <;> rfl

def parametersAt (location : Swagger.Location) (operation : Swagger.Operation) :
    List Swagger.Parameter :=
  (operation.parameters.getD []).filter (·.location = location)

/-- The operation of an action once its body and its responses are known. -/
def operationOf (scope : Scope) (action : Raml.Action) (body : Option Swagger.Parameter)
    (responses : Entries Swagger.Response) : Swagger.Operation where
  description := action.description
  consumes := nonEmpty (firstOccurrences action.bodies.names)
  produces := nonEmpty (producedTypes action.responses)
  parameters := nonEmpty (
    action.headers.map (fun p => parameterOf .header p.1 p.2) ++
    action.queryParameters.map (fun p => parameterOf .query p.1 p.2) ++ body.toList ++
    scope.parameters.map fun p => parameterOf .path p.1 p.2)
  responses := responses

theorem mapOperation_eq (registry : Registry) (scope : Scope) (action : Raml.Action) :
    mapOperation registry scope action =
      mapBody registry action.bodies >>= fun body =>
        (mapResponses registry action.responses).map (operationOf scope action body) := by
  simp only [mapOperation, mapParameters_eq, ok_bind]
  cases mapBody registry action.bodies with
  | error s => rfl
  | ok body => cases mapResponses registry action.responses <;> rfl

theorem mapBody_eq_ok {registry : Registry} {bodies : Entries Raml.Body}
    {body : Option Swagger.Parameter} (h : mapBody registry bodies = .ok body) :
    (bodies = [] ∧ body = none) ∨
      ∃ schema, registry.resolveFirst bodies = .ok schema ∧ body = some (bodyParameter schema) := by
  cases bodies with
  | nil =>
    cases h
    exact Or.inl ⟨rfl, rfl⟩
  | cons b rest =>
    obtain ⟨schema, hschema, rfl⟩ := map_eq_ok h
    exact Or.inr ⟨schema, hschema, rfl⟩

/-- A request has its body in one place. -/
theorem location_of_mapBody {registry : Registry} {bodies : Entries Raml.Body}
    {p : Swagger.Parameter} (h : mapBody registry bodies = .ok (some p)) : p.location = .body := by
  rcases mapBody_eq_ok h with ⟨_, none⟩ | ⟨schema, _, same⟩
  · cases none
  · cases same
    rfl

theorem mapEachResponse_eq (registry : Registry) (responses : Entries Raml.Response) :
    mapEachResponse registry responses =
      responses.mapM fun p => (mapResponse registry p.1 p.2).map (p.1, ·) := by
  induction responses with
  | nil => rfl
  | cons p rest ih =>
    obtain ⟨code, r⟩ := p
    rw [mapM_cons_eq, mapEachResponse, ih]
    cases mapResponse registry code r with
    | error s => rfl
    | ok response =>
      cases rest.mapM fun p => (mapResponse registry p.1 p.2).map (p.1, ·) <;> rfl

theorem mapResponses_of_ne_nil (registry : Registry) {responses : Entries Raml.Response}
    (h : responses ≠ []) :
    mapResponses registry responses =
      responses.mapM fun p => (mapResponse registry p.1 p.2).map (p.1, ·) := by
  have given : responses.isEmpty = false := List.isEmpty_eq_false_iff.mpr h
  rw [mapResponses, given, if_neg Bool.false_ne_true, mapEachResponse_eq]

/-- The responses that come out are those that are declared, each with the schema of its bodies. -/
theorem mapResponses_eq_ok {registry : Registry} {responses : Entries Raml.Response}
    (declared : responses ≠ []) {made : Entries Swagger.Response}
    (h : mapResponses registry responses = .ok made) :
    made.names = responses.names ∧
      ∀ q ∈ made, ∃ r, (q.1, r) ∈ responses ∧ registry.resolveFirst r.bodies = .ok q.2.schema := by
  rw [mapResponses_of_ne_nil registry declared] at h
  refine ⟨names_of_mapM h, fun q hq => ?_⟩
  obtain ⟨⟨code, r⟩, hr, made⟩ := source_of_mapM h hq
  obtain ⟨response, hresponse, rfl⟩ := map_eq_ok made
  obtain ⟨schema, hschema, rfl⟩ := map_eq_ok hresponse
  exact ⟨r, hr, hschema⟩

/-- Every declared response comes out, under its code and with the schema of its bodies. -/
theorem mapResponses_of_mem {registry : Registry} {responses : Entries Raml.Response}
    {made : Entries Swagger.Response} (h : mapResponses registry responses = .ok made)
    {code : String} {r : Raml.Response} (hmem : (code, r) ∈ responses) :
    ∃ response, (code, response) ∈ made ∧
      registry.resolveFirst r.bodies = .ok response.schema := by
  rw [mapResponses_of_ne_nil registry (List.ne_nil_of_mem hmem)] at h
  obtain ⟨q, hq, step⟩ := result_of_mapM h hmem
  obtain ⟨response, hresponse, rfl⟩ := map_eq_ok step
  obtain ⟨schema, hschema, rfl⟩ := map_eq_ok hresponse
  exact ⟨_, hq, hschema⟩

section Locations

variable {registry : Registry} {scope : Scope} {action : Raml.Action}
  {operation : Swagger.Operation}

theorem mapOperation_eq_ok (h : mapOperation registry scope action = .ok operation) :
    ∃ body responses, mapBody registry action.bodies = .ok body ∧
      mapResponses registry action.responses = .ok responses ∧
      operation = operationOf scope action body responses := by
  rw [mapOperation_eq] at h
  obtain ⟨body, hbody, h⟩ := bind_eq_ok h
  obtain ⟨responses, hresponses, rfl⟩ := map_eq_ok h
  exact ⟨body, responses, hbody, hresponses, rfl⟩

theorem filter_body {body : Option Swagger.Parameter} {location : Swagger.Location}
    (h : mapBody registry action.bodies = .ok body) :
    body.toList.filter (·.location = location) = if location = .body then body.toList else [] := by
  cases body with
  | none => simp only [Option.toList_none, List.filter_nil, ite_self]
  | some p =>
    have stands : p.location = .body := location_of_mapBody h
    by_cases same : location = .body
    · simp only [Option.toList_some, List.filter_cons, stands, same, decide_true, if_true,
        List.filter_nil]
    · have other : ¬ Swagger.Location.body = location := fun e => same e.symm
      simp only [Option.toList_some, List.filter_cons, stands, other, decide_false,
        Bool.false_eq_true, if_false, List.filter_nil, same]

/-- The path parameters of an operation are those that its scope holds. -/
theorem parametersAt_path (h : mapOperation registry scope action = .ok operation) :
    parametersAt .path operation =
      scope.parameters.map fun p => parameterOf .path p.1 p.2 := by
  obtain ⟨body, responses, hbody, _, rfl⟩ := mapOperation_eq_ok h
  simp only [parametersAt, operationOf, getD_nonEmpty, List.filter_append, filter_parameterOf,
    filter_body hbody, reduceCtorEq, if_false, if_true, List.nil_append]

/-- At most the body stands at its location. -/
theorem parametersAt_body {body : Option Swagger.Parameter}
    (h : mapOperation registry scope action = .ok operation)
    (hbody : mapBody registry action.bodies = .ok body) :
    parametersAt .body operation = body.toList := by
  obtain ⟨body', responses, hbody', _, rfl⟩ := mapOperation_eq_ok h
  rw [hbody] at hbody'
  cases hbody'
  simp only [parametersAt, operationOf, getD_nonEmpty, List.filter_append, filter_parameterOf,
    filter_body hbody, reduceCtorEq, if_false, if_true, List.nil_append, List.append_nil]

end Locations

end RamlBridge.Conversion

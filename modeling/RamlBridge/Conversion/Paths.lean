import RamlBridge.Conversion.Parameters
import RamlBridge.Conversion.Responses
import RamlBridge.Conversion.Scope

/-!
The paths of a document: one for every resource, under the URIs of all the resources above it and
its own, behind the prefix that was hoisted out of the base URI.
-/
namespace RamlBridge.Conversion

/-- A list, or nothing if it is empty. -/
def nonEmpty {α : Type} : List α → Option (List α)
  | [] => none
  | xs => some xs

def producedTypes (responses : Entries Raml.Response) : List String :=
  firstOccurrences (responses.flatMap fun p => p.2.bodies.names)

/-- The operation of a method, with the path parameters that it can see. -/
def mapOperation (registry : Registry) (scope : Scope) (action : Raml.Action) :
    Except Stop Swagger.Operation := do
  let headers ← mapParameters .header action.headers
  let queries ← mapParameters .query action.queryParameters
  let body ← mapBody registry action.bodies
  let path ← mapParameters .path scope.parameters
  let responses ← mapResponses registry action.responses
  .ok {
    description := action.description
    consumes := nonEmpty (firstOccurrences action.bodies.names)
    produces := nonEmpty (producedTypes action.responses)
    parameters := nonEmpty (headers ++ queries ++ body.toList ++ path)
    responses := responses }

def mapOperations (registry : Registry) (scope : Scope) :
    List (String × Raml.Action) → Except Stop (List (String × Swagger.Operation))
  | [] => .ok []
  | (method, action) :: rest => do
    let operation ← mapOperation registry scope action
    let operations ← mapOperations registry scope rest
    .ok ((Text.lower method, operation) :: operations)

def mapActions (registry : Registry) (scope : Scope) (actions : Entries Raml.Action) :
    Except Stop Swagger.PathItem :=
  (mapOperations registry scope actions).map Entries.ofList

mutual

/-- Adds the path of a resource, and then those of the resources below it. -/
def visit (registry : Registry) (hoistedPrefix uri : String) (scope : Scope)
    (paths : Entries Swagger.PathItem) : Raml.Resource → Report (Entries Swagger.PathItem)
  | ⟨_, _, uriParameters, actions, children⟩ => do
    let scope := scope.extend uriParameters
    let key := hoistedPrefix ++ uri
    Report.warnIf (paths.contains key) (.repeatedPath key)
    let item ← Report.ofExcept (mapActions registry scope actions)
    visitAll registry hoistedPrefix uri scope (paths.put key item) children

def visitAll (registry : Registry) (hoistedPrefix uri : String) (scope : Scope)
    (paths : Entries Swagger.PathItem) :
    List (String × Raml.Resource) → Report (Entries Swagger.PathItem)
  | [] => .ok paths
  | (relative, resource) :: rest => do
    let paths ← visit registry hoistedPrefix (uri ++ relative) scope paths resource
    visitAll registry hoistedPrefix uri scope paths rest

end

/-- The paths of a forest of resources, each resource before those below it. -/
def mapPaths (registry : Registry) (hoistedPrefix : String) (root : Scope)
    (resources : Entries Raml.Resource) : Report (Entries Swagger.PathItem) :=
  visitAll registry hoistedPrefix "" root [] resources

end RamlBridge.Conversion

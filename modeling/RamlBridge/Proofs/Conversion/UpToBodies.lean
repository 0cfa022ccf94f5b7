import RamlBridge.Proofs.Conversion.Operations
import RamlBridge.Proofs.Conversion.Paths
import RamlBridge.Proofs.Validation.Related

/-!
Resources that are the same up to the bodies of their methods and responses. The paths show of
bodies the media types and the schema that is found among them. Where these are the same, so are
the paths, be it with another registry.
-/
namespace RamlBridge

namespace Raml

/-- Responses that are the same up to their bodies. -/
structure Response.UpTo (B : Entries Body → Entries Body → Prop) (r r' : Response) : Prop where
  description : r.description = r'.description
  bodies : B r.bodies r'.bodies

structure Action.UpTo (B : Entries Body → Entries Body → Prop) (a a' : Action) : Prop where
  description : a.description = a'.description
  headers : a.headers = a'.headers
  queryParameters : a.queryParameters = a'.queryParameters
  bodies : B a.bodies a'.bodies
  responses : Alike (Response.UpTo B) a.responses a'.responses

inductive ForestUpTo (B : Entries Body → Entries Body → Prop) :
    List (String × Resource) → List (String × Resource) → Prop
  | nil : ForestUpTo B [] []
  | cons {key displayName description uriParameters actions actions' children children' rest
      rest'} : Alike (Action.UpTo B) actions actions' → ForestUpTo B children children' →
      ForestUpTo B rest rest' →
      ForestUpTo B ((key, ⟨displayName, description, uriParameters, actions, children⟩) :: rest)
        ((key, ⟨displayName, description, uriParameters, actions', children'⟩) :: rest')

section Refl

variable {B : Entries Body → Entries Body → Prop} (refl : ∀ bodies, B bodies bodies)

include refl

theorem Action.upTo_refl (a : Action) : a.UpTo B a :=
  ⟨rfl, rfl, rfl, refl a.bodies, alike_refl (fun r => ⟨rfl, refl r.bodies⟩) a.responses⟩

theorem forestUpTo_refl (forest : List (String × Resource)) : ForestUpTo B forest forest := by
  induction forest using forest_induction with
  | nil => exact .nil
  | cons key r rest ihBelow ihRest =>
    obtain ⟨displayName, description, uriParameters, actions, children⟩ := r
    exact .cons (alike_refl (Action.upTo_refl refl) actions) ihBelow ihRest

end Refl

end Raml

namespace Conversion

open Raml (Body Response Action Resource ForestUpTo)

/-- Related bodies have the same media types, and two registries find one schema among them. -/
structure ShowsSame (registry other : Registry) (B : Entries Body → Entries Body → Prop) :
    Prop where
  mediaTypes : ∀ {bodies bodies'}, B bodies bodies' → bodies.names = bodies'.names
  schema : ∀ {bodies bodies'}, B bodies bodies' →
    registry.resolveFirst bodies = other.resolveFirst bodies'

namespace ShowsSame

variable {registry other : Registry} {B : Entries Body → Entries Body → Prop}
  (same : ShowsSame registry other B)

include same

theorem mapBody_eq {bodies bodies' : Entries Body} (h : B bodies bodies') :
    mapBody registry bodies = mapBody other bodies' := by
  have empty : bodies.isEmpty = bodies'.isEmpty := by
    have names : (bodies.map Prod.fst).isEmpty = (bodies'.map Prod.fst).isEmpty :=
      congrArg List.isEmpty (same.mediaTypes h)
    rwa [List.isEmpty_map, List.isEmpty_map] at names
  rw [mapBody, mapBody, empty, same.schema h]

theorem mapResponses_eq {responses responses' : Entries Response}
    (h : Alike (Response.UpTo B) responses responses') :
    mapResponses registry responses = mapResponses other responses' := by
  have each : mapEachResponse registry responses = mapEachResponse other responses' := by
    induction h with
    | nil => rfl
    | @cons p q rs rs' first _ ih =>
      obtain ⟨code, r⟩ := p
      obtain ⟨code', r'⟩ := q
      obtain ⟨rfl, upTo⟩ := first
      have response : mapResponse registry code r = mapResponse other code r' := by
        rw [mapResponse, mapResponse, upTo.description, same.schema upTo.bodies]
      rw [mapEachResponse, mapEachResponse, response, ih]
  have empty : responses.isEmpty = responses'.isEmpty := by
    cases h <;> rfl
  rw [mapResponses, mapResponses, empty, each]

theorem producedTypes_eq {responses responses' : Entries Response}
    (h : Alike (Response.UpTo B) responses responses') :
    producedTypes responses = producedTypes responses' := by
  have types : responses.flatMap (fun p => p.2.bodies.names) =
      responses'.flatMap fun p => p.2.bodies.names := by
    induction h with
    | nil => rfl
    | cons first _ ih =>
      rw [List.flatMap_cons, List.flatMap_cons, ih, same.mediaTypes first.2.bodies]
  rw [producedTypes, producedTypes, types]

theorem mapOperation_eq {a a' : Action} (h : a.UpTo B a') (scope : Scope) :
    mapOperation registry scope a = mapOperation other scope a' := by
  have made : operationOf scope a = operationOf scope a' := by
    funext body responses
    rw [operationOf, operationOf, h.description, h.headers, h.queryParameters,
      same.mediaTypes h.bodies, same.producedTypes_eq h.responses]
  rw [Conversion.mapOperation_eq, Conversion.mapOperation_eq, same.mapBody_eq h.bodies,
    same.mapResponses_eq h.responses, made]

theorem mapActions_eq {actions actions' : Entries Action}
    (h : Alike (Action.UpTo B) actions actions') (scope : Scope) :
    mapActions registry scope actions = mapActions other scope actions' := by
  have each : mapOperations registry scope actions = mapOperations other scope actions' := by
    induction h with
    | nil => rfl
    | @cons p q as as' first _ ih =>
      obtain ⟨method, a⟩ := p
      obtain ⟨method', a'⟩ := q
      obtain ⟨rfl, upTo⟩ := first
      rw [mapOperations, mapOperations, same.mapOperation_eq upTo scope, ih]
  rw [mapActions, mapActions, each]

/-- Going through either of two forests comes to the same, with the same warnings. -/
theorem visitAll_eq {forest forest' : List (String × Resource)} (h : ForestUpTo B forest forest')
    (hoistedPrefix uri : String) (scope : Scope) (paths : Entries Swagger.PathItem) :
    visitAll registry hoistedPrefix uri scope paths forest =
      visitAll other hoistedPrefix uri scope paths forest' := by
  induction h generalizing uri scope paths with
  | nil => rfl
  | cons hactions _ _ ihBelow ihRest =>
    simp only [visitAll, visit, same.mapActions_eq hactions, ihBelow, ihRest]

theorem mapPaths_eq {resources resources' : Entries Resource}
    (h : ForestUpTo B resources resources') (hoistedPrefix : String) (root : Scope) :
    mapPaths registry hoistedPrefix root resources =
      mapPaths other hoistedPrefix root resources' :=
  same.visitAll_eq h hoistedPrefix "" root []

end ShowsSame

end Conversion

end RamlBridge

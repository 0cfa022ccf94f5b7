import RamlBridge.Proofs.Validation.Accepted
import RamlBridge.Raml.Document

/-!
What is known of a description once it is accepted.
-/
namespace RamlBridge.Raml

open Checked

theorem Parameter.ensures_readAll (kind : ParameterKind) (d : Datum) :
    Ensures (Parameter.readAll kind d) fun declared => declared.names.Nodup :=
  .andThen fun map _ => .entries (Parameter.read kind) map

theorem Body.ensures_readAll (mediaType d : Datum) :
    Ensures (Body.readAll mediaType d) fun bodies => bodies.names.Nodup :=
  .andThen fun map _ => .entries Body.read map

theorem Response.ensures_readAll (mediaType d : Datum) :
    Ensures (Response.readAll mediaType d) fun responses => responses.names.Nodup :=
  .andThen fun map _ => .entries (Response.read mediaType) map

structure Action.Distinct (action : Action) : Prop where
  headers : action.headers.names.Nodup
  queryParameters : action.queryParameters.names.Nodup
  bodies : action.bodies.names.Nodup
  responses : action.responses.names.Nodup

theorem Action.ensures_distinct (mediaType d : Datum) :
    Ensures (Action.read mediaType d) Action.Distinct := by
  refine .andThen fun es _ => ?_
  refine .seq ?_ (.field (Q := fun responses => responses.names.Nodup) List.nodup_nil
    (Response.ensures_readAll mediaType))
  refine .seq ?_ (.field (Q := fun bodies => bodies.names.Nodup) List.nodup_nil
    (Body.ensures_readAll mediaType))
  refine .seq ?_ (.field (Q := fun declared => declared.names.Nodup) List.nodup_nil
    (Parameter.ensures_readAll .query))
  refine .seq ?_ (.field (Q := fun declared => declared.names.Nodup) List.nodup_nil
    (Parameter.ensures_readAll .header))
  refine .map (.of_forall ?_)
  intro description headers hheaders queries hqueries bodies hbodies responses hresponses
  exact ⟨hheaders, hqueries, hbodies, hresponses⟩

theorem Root.ensures_ofEntries (mediaType : Datum) (es : List (Scalar × Datum)) :
    Ensures (Root.ofEntries mediaType es) fun root => root.baseUriParameters.names.Nodup := by
  refine .andThen fun resources _ => ?_
  refine .seq ?_ (.any _)
  refine .seq ?_ (.any _)
  refine .seq ?_ (.any _)
  refine .seq ?_ (.any _)
  refine .seq ?_ (.field (Q := fun declared => declared.names.Nodup) List.nodup_nil
    (Parameter.ensures_readAll .uri))
  refine .seq ?_ (.any _)
  refine .seq ?_ (.any _)
  refine .seq ?_ (.any _)
  refine .seq ?_ (.any _)
  refine .map (.of_forall ?_)
  intro title version _ baseUri _ protocols _ mediaType _ declared distinct
  exact fun _ _ _ _ _ _ _ _ => distinct

/-- The parameters of the base URI are declared under distinct names. -/
theorem Root.nodup_baseUriParameters {d : Datum} {root : Root}
    (h : Root.read d = .accepted root) : root.baseUriParameters.names.Nodup := by
  unfold Root.read at h
  split at h
  · exact ensures_ofEntries _ _ root h
  · exact ensures_ofEntries _ _ root h
  · cases h

end RamlBridge.Raml

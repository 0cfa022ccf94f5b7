import RamlBridge.Raml.Parts

/-!
Reading resources with everything below them.
-/
namespace RamlBridge.Raml

open Checked

def Resource.empty : Resource := ⟨none, none, [], [], []⟩

/-- Reads a resource from its entries, and so every resource below it. -/
def Resource.ofEntries (mediaType : Datum) (es : List (Scalar × Datum)) : Checked Resource :=
  match h : Parts.ofEntries es with
  | .accepted parts =>
    Resource.mk
      <$> field parts.fields "displayName" "display_name" none (nullable text)
      <*> field parts.fields "description" "description" none (nullable text)
      <*> field parts.fields "uriParameters" "uri_parameters" [] (Parameter.readAll .uri)
      <*> under (.key "actions") (entries (Action.read mediaType) (.map parts.actions))
      <*> under (.key "resources") (entriesOf (parts.resources.attach.map fun p =>
        (p.1.1, match hd : p.1.2 with
          | .map sub =>
            have := mapsBelow_parts h p.1 p.2 sub hd
            Resource.ofEntries mediaType sub
          | .scalar .null => .accepted Resource.empty
          | _ => fault (.notModel "Resource"))))
  | .refused faults => .refused faults
  | .stopped obstacle => .stopped obstacle
termination_by sizeOf es

def Resource.read (mediaType : Datum) : Datum → Checked Resource
  | .map es => Resource.ofEntries mediaType es
  | .scalar .null => .accepted Resource.empty
  | _ => fault (.notModel "Resource")

/-- A resource is read from its parts, and the resources below it as any resource. -/
theorem Resource.ofEntries_eq (mediaType : Datum) (es : List (Scalar × Datum)) :
    Resource.ofEntries mediaType es = (Parts.ofEntries es).andThen fun parts =>
      Resource.mk
        <$> field parts.fields "displayName" "display_name" none (nullable text)
        <*> field parts.fields "description" "description" none (nullable text)
        <*> field parts.fields "uriParameters" "uri_parameters" [] (Parameter.readAll .uri)
        <*> under (.key "actions") (entries (Action.read mediaType) (.map parts.actions))
        <*> under (.key "resources")
          (entriesOf (parts.resources.map fun p => (p.1, Resource.read mediaType p.2))) := by
  rw [Resource.ofEntries]
  split
  · rename_i parts h
    simp only [h, andThen]
    congr 1
    funext _
    congr 2
    conv => rhs; rw [← List.attach_map_subtype_val parts.resources, List.map_map]
    refine List.map_congr_left fun p _ => ?_
    simp only [Function.comp]
    congr 1
    split <;> simp_all [Resource.read]
  · simp_all [andThen]
  · simp_all [andThen]

end RamlBridge.Raml

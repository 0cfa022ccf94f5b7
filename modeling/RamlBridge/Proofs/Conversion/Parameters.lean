import RamlBridge.Conversion.Parameters
import RamlBridge.Proofs.Conversion.Report

/-!
The parameter that a declaration gives. A declaration whose values are of the right kinds always
gives one, so that only a schema can stop the mapping of a request.
-/
namespace RamlBridge.Conversion

theorem lower_typeName (t : Raml.ParameterType) : Text.lower t.name = t.name := by
  cases t <;> decide

theorem typeName_ne_empty (t : Raml.ParameterType) : t.name ≠ "" := by
  cases t <;> decide

theorem scalarType_typeName (t : Raml.ParameterType) :
    scalarType (.text t.name) = .ok (some t.name) := by
  simp only [scalarType, Datum.plainText, Scalar.plainText, lower_typeName]

theorem choiceList_choices (choices : Option (List Datum)) :
    choiceList ((choices.map Datum.list).getD .null) = .ok (choices.filter (!·.isEmpty)) := by
  rcases choices with _ | _ | ⟨x, xs⟩ <;> rfl

theorem numberConstraint_ofNumber (name field : String) (bound : Option Number) :
    numberConstraint name field ((bound.map Declaration.ofNumber).getD .null) = .ok bound := by
  rcases bound with _ | n | x <;> rfl

theorem lengthConstraint_length (name field : String) (length : Option Nat) :
    lengthConstraint name field ((length.map fun n : Nat => Datum.scalar (.int n)).getD .null) =
      .ok (length.map Int.ofNat) := by
  cases length with
  | none => rfl
  | some n =>
    have bound : (0 : Int) ≤ n := Int.natCast_nonneg n
    simp only [Option.map_some, Option.getD_some, lengthConstraint, if_pos bound]
    rfl

theorem patternConstraint_ofText (name : String) (pattern : Option String) :
    patternConstraint name (Declaration.ofText pattern) = .ok pattern := by
  cases pattern <;> rfl

theorem descriptionText_ofText (description : Option String) :
    descriptionText (Declaration.ofText description) = .ok description := by
  cases description <;> rfl

def parameterOf (location : Swagger.Location) (name : String) (p : Raml.Parameter) :
    Swagger.Parameter where
  location := location
  name := name
  description := p.description
  required := p.required
  type := some (if p.repeats then "array" else p.type.name)
  items := if p.repeats then some p.type.name else none
  fallback := p.fallback
  choices := p.choices.filter (!·.isEmpty)
  minimum := p.minimum
  maximum := p.maximum
  minLength := p.minLength.map Int.ofNat
  maxLength := p.maxLength.map Int.ofNat
  pattern := p.pattern
  sample := p.sample
  schema := none

theorem mapParameter_ofParameter (location : Swagger.Location) (name : String)
    (p : Raml.Parameter) :
    mapParameter location name (.ofParameter p) = .ok (parameterOf location name p) := by
  have items : (some p.type.name).filter (fun s => decide (s ≠ "")) = some p.type.name := by
    rw [Option.filter_some, if_pos (decide_eq_true (typeName_ne_empty p.type))]
  have type : (if p.repeats then some "array" else some p.type.name) =
      some (if p.repeats then "array" else p.type.name) := by
    split <;> rfl
  simp only [mapParameter, Declaration.ofParameter, choiceList_choices, numberConstraint_ofNumber,
    lengthConstraint_length, patternConstraint_ofText, descriptionText_ofText, ok_bind,
    scalarType_typeName, Datum.isGiven, Scalar.isGiven, items, parameterOf]
  rw [← type]
  rfl

theorem mapParameters_eq (location : Swagger.Location) (ps : Entries Raml.Parameter) :
    mapParameters location ps = .ok (ps.map fun p => parameterOf location p.1 p.2) := by
  induction ps with
  | nil => rfl
  | cons p rest ih =>
    rw [mapParameters, mapParameter_ofParameter, ok_bind, ih, ok_bind, List.map_cons]

/-- A location keeps its own parameters and none of another one. -/
theorem filter_parameterOf (location other : Swagger.Location) (ps : Entries Raml.Parameter) :
    (ps.map fun p => parameterOf location p.1 p.2).filter (·.location = other) =
      if location = other then ps.map fun p => parameterOf location p.1 p.2 else [] := by
  by_cases same : location = other
  · rw [if_pos same]
    refine List.filter_eq_self.mpr fun q hq => ?_
    obtain ⟨p, _, rfl⟩ := List.mem_map.mp hq
    exact decide_eq_true same
  · rw [if_neg same]
    refine List.filter_eq_nil_iff.mpr fun q hq => ?_
    obtain ⟨p, _, rfl⟩ := List.mem_map.mp hq
    exact fun h => same (of_decide_eq_true h)

end RamlBridge.Conversion

import RamlBridge.Proofs.Conversion.Arguments
import RamlBridge.Proofs.Conversion.Parameters

/-!
The checks that a declaration passes on the way to a parameter of the document. What the model of
declarations accepts passes all of them, the model of the document included; of a declaration that
no model has read, the first malformed constraint is blamed.
-/
namespace RamlBridge.Conversion

/-- A value that constrains a parameter, and what it has to be unless it is null. -/
structure Constraint where
  field : String
  value : Datum
  fits : Datum → Bool

def isNumber : Datum → Bool
  | .scalar (.int _) | .scalar (.float _) => true
  | _ => false

def Constraint.isMalformed (c : Constraint) : Bool :=
  match c.value with
  | .scalar .null => false
  | d => !c.fits d

section Blame

variable {α β : Type} {name : String}

def Checks (name : String) (c : Constraint) (outcome : Except Stop α) : Prop :=
  (c.isMalformed = true ∧ outcome = .error (malformed name c.field c.value)) ∨
  (c.isMalformed = false ∧ ∃ a, outcome = .ok a)

/-- An outcome is that of the first malformed constraint. Without one it is no failure, and no
integer is too long for it. -/
inductive StopsAtFirst (name : String) (cs : List Constraint) : Except Stop α → Prop
  | malformed {c : Constraint} : cs.find? Constraint.isMalformed = some c →
      StopsAtFirst name cs (.error (malformed name c.field c.value))
  | fits {outcome : Except Stop α} : cs.find? Constraint.isMalformed = none →
      (∀ f, outcome ≠ .error (.failure f)) → outcome ≠ .error .integerTooLong →
      StopsAtFirst name cs outcome

theorem StopsAtFirst.bind {c : Constraint} {cs : List Constraint} {outcome : Except Stop α}
    {next : α → Except Stop β} (h : Checks name c outcome)
    (later : ∀ a, StopsAtFirst name cs (next a)) :
    StopsAtFirst name (c :: cs) (outcome >>= next) := by
  rcases h with ⟨bad, rfl⟩ | ⟨fine, a, rfl⟩
  · exact .malformed (List.find?_cons_of_pos bad)
  · have same : (c :: cs).find? Constraint.isMalformed = cs.find? Constraint.isMalformed :=
      List.find?_cons_of_neg (by simp [fine])
    rw [ok_bind]
    generalize next a = outcome, later a = stops
    cases stops with
    | malformed first => exact .malformed (same.trans first)
    | fits none noFailure short => exact .fits (same.trans none) noFailure short

end Blame

end RamlBridge.Conversion

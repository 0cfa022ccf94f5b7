import RamlBridge.Conversion.Report
import RamlBridge.Proofs.Outcome

/-!
The outcome of a report: that of one step after another, whatever the warnings.
-/
namespace RamlBridge.Conversion

namespace Report

variable {α β : Type}

@[simp] theorem outcome_ok (a : α) : (ok a).outcome = .ok a := rfl

@[simp] theorem outcome_stop (s : Stop) : (stop s : Report α).outcome = .error s := rfl

@[simp] theorem outcome_fail (f : Failure) :
    (fail f : Report α).outcome = .error (.failure f) := rfl

@[simp] theorem outcome_warned (w : Warning) (a : α) : (warned w a).outcome = .ok a := rfl

@[simp] theorem outcome_ofExcept (outcome : Except Stop α) :
    (ofExcept outcome).outcome = outcome := rfl

@[simp] theorem outcome_told (r : Report α) : r.told.outcome = r.outcome.mapError Stop.told := rfl

@[simp] theorem outcome_warnIf (condition : Bool) (w : Warning) :
    (warnIf condition w).outcome = .ok () := rfl

/-- Warnings have no say in the outcome. -/
@[simp] theorem outcome_bind (r : Report α) (next : α → Report β) :
    (r >>= next).outcome = r.outcome >>= fun a => (next a).outcome := by
  change (r.bind next).outcome = _
  unfold bind
  cases r.outcome <;> rfl

/-- Steps that agree on what a first step comes to agree after it. -/
theorem bind_congr {r : Report α} {f g : α → Report β}
    (h : ∀ a, r.outcome = .ok a → f a = g a) : r >>= f = r >>= g := by
  change r.bind f = r.bind g
  unfold bind
  cases made : r.outcome with
  | error s => rfl
  | ok a => simp only [h a made]

/-- The warnings of a second step follow those of a first one that comes to something. -/
theorem warnings_bind {r : Report α} {a : α} (h : r.outcome = .ok a) (next : α → Report β) :
    (r >>= next).warnings = r.warnings ++ (next a).warnings := by
  change (r.bind next).warnings = _
  unfold bind
  rw [h]

theorem bind_ok (r : Report α) : r >>= ok = r := by
  change r.bind ok = r
  unfold bind
  obtain ⟨outcome, warnings⟩ := r
  cases outcome <;> simp [ok]

/-- The warnings of three steps stand in the order of the steps. -/
theorem bind_assoc {γ : Type} (r : Report α) (f : α → Report β) (g : β → Report γ) :
    r >>= f >>= g = r >>= fun a => f a >>= g := by
  change (r.bind f).bind g = r.bind fun a => (f a).bind g
  unfold bind
  cases r.outcome with
  | error s => rfl
  | ok a =>
    cases made : (f a).outcome with
    | error s => simp only [made]
    | ok b => simp only [made, List.append_assoc]

end Report

end RamlBridge.Conversion

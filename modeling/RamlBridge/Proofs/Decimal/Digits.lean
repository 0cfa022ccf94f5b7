import Mathlib.Algebra.Group.Nat.Defs
import Mathlib.Data.List.Induction
import Mathlib.Data.Nat.Init
import RamlBridge.Decimal.Digits

/-!
Reading digits back. The digits of a number denote it, and none but zero begins with the digit
zero.
-/
namespace RamlBridge.Decimal

theorem isDigit_digitChar : ∀ d < 10, (digitChar d).isDigit = true := by decide

theorem toNat_digitChar : ∀ d < 10, (digitChar d).toNat - '0'.toNat = d := by decide

theorem digitChar_ne_zero : ∀ d < 10, d ≠ 0 → digitChar d ≠ '0' := by decide

/-- What stands behind the digits of a number does not change them. -/
theorem digitsOnto_append (n : Nat) (tail rest : List Char) :
    digitsOnto n (tail ++ rest) = digitsOnto n tail ++ rest := by
  induction n using Nat.strong_induction_on generalizing tail with
  | _ n ih =>
    unfold digitsOnto
    split
    · rfl
    · exact ih (n / 10) (by omega) (digitChar (n % 10) :: tail)

theorem digits_of_lt {n : Nat} (h : n < 10) : digits n = [digitChar n] := by
  rw [digits, digitsOnto, if_pos h]

theorem digits_of_le {n : Nat} (h : 10 ≤ n) :
    digits n = digits (n / 10) ++ [digitChar (n % 10)] := by
  have several : ¬ n < 10 := by omega
  rw [digits, digitsOnto, if_neg several]
  exact digitsOnto_append (n / 10) [] [digitChar (n % 10)]

theorem isDigit_of_mem_digits (n : Nat) : ∀ c ∈ digits n, c.isDigit = true := by
  induction n using Nat.strong_induction_on with
  | _ n ih =>
    by_cases small : n < 10
    · rw [digits_of_lt small]
      intro c hc
      rw [List.mem_singleton.mp hc]
      exact isDigit_digitChar n small
    · rw [digits_of_le (by omega)]
      intro c hc
      rcases List.mem_append.mp hc with before | last
      · exact ih (n / 10) (by omega) c before
      · rw [List.mem_singleton.mp last]
        exact isDigit_digitChar (n % 10) (by omega)

theorem ofDigits_append_singleton (cs : List Char) (c : Char) :
    ofDigits (cs ++ [c]) = 10 * ofDigits cs + (c.toNat - '0'.toNat) := by
  simp only [ofDigits, List.foldl_append, List.foldl_cons, List.foldl_nil]

theorem ofDigits_lt {cs : List Char} (h : ∀ c ∈ cs, c.isDigit = true) :
    ofDigits cs < 10 ^ cs.length := by
  induction cs using List.reverseRecOn with
  | nil => decide
  | append_singleton cs c ih =>
    have before := ih fun d hd => h d (List.mem_append_left [c] hd)
    have last : c.toNat - '0'.toNat < 10 := by
      have digit := h c (List.mem_append_right cs (List.mem_singleton_self c))
      simp only [Char.isDigit, Bool.and_eq_true, decide_eq_true_eq, ge_iff_le] at digit
      have top : c.toNat ≤ 57 := digit.2
      have zero : '0'.toNat = 48 := rfl
      omega
    rw [ofDigits_append_singleton, List.length_append, List.length_singleton, Nat.pow_succ]
    omega

/-- The digits of a number denote it. -/
theorem ofDigits_digits (n : Nat) : ofDigits (digits n) = n := by
  induction n using Nat.strong_induction_on with
  | _ n ih =>
    by_cases small : n < 10
    · rw [digits_of_lt small]
      have value := toNat_digitChar n small
      simpa [ofDigits] using value
    · have value := toNat_digitChar (n % 10) (by omega)
      rw [digits_of_le (by omega), ofDigits_append_singleton, ih (n / 10) (by omega), value]
      omega

/-- No number but zero begins with the digit zero, and that one has no other. -/
theorem digits_eq_cons (n : Nat) :
    digits n = ['0'] ∨ ∃ c cs, digits n = c :: cs ∧ c ≠ '0' := by
  induction n using Nat.strong_induction_on with
  | _ n ih =>
    by_cases small : n < 10
    · rw [digits_of_lt small]
      by_cases zero : n = 0
      · rw [zero]
        exact Or.inl rfl
      · exact Or.inr ⟨digitChar n, [], rfl, digitChar_ne_zero n small zero⟩
    · rw [digits_of_le (by omega)]
      rcases ih (n / 10) (by omega) with zero | ⟨c, cs, first, given⟩
      · have value := ofDigits_digits (n / 10)
        rw [zero] at value
        have none : n / 10 = 0 := value.symm
        omega
      · rw [first]
        exact Or.inr ⟨c, cs ++ [digitChar (n % 10)], rfl, given⟩

theorem digits_head (n : Nat) : ∃ c cs, digits n = c :: cs ∧ c.isDigit = true := by
  rcases digits_eq_cons n with zero | ⟨c, cs, first, -⟩
  · exact ⟨'0', [], zero, rfl⟩
  · exact ⟨c, cs, first, isDigit_of_mem_digits n c (by simp [first])⟩

/-- A number has no more digits than the power of ten that it lies below. -/
theorem length_digits_le {n k : Nat} (h : n < 10 ^ (k + 1)) : (digits n).length ≤ k + 1 := by
  induction k generalizing n with
  | zero =>
    have small : n < 10 := by omega
    exact Nat.le_of_eq (by rw [digits_of_lt small, List.length_singleton])
  | succ k ih =>
    by_cases small : n < 10
    · rw [digits_of_lt small, List.length_singleton]
      omega
    · have below : n / 10 < 10 ^ (k + 1) := by
        rw [Nat.pow_succ] at h
        omega
      have shorter := ih below
      rw [digits_of_le (by omega), List.length_append, List.length_singleton]
      omega

theorem integer_eq (n : Int) :
    integer n = (if n < 0 then ['-'] else []) ++ digits n.natAbs := by
  cases n with
  | ofNat k =>
    have positive : ¬ Int.ofNat k < 0 := by simp
    rw [if_neg positive]
    rfl
  | negSucc k =>
    rw [if_pos (Int.negSucc_lt_zero k)]
    rfl

theorem isShort_iff {n : Int} : isShort n = true ↔ (digits n.natAbs).length ≤ mostDigits :=
  decide_eq_true_iff

/-- What is read from digits has no more of them. -/
theorem isShort_ofDigits {cs : List Char} (digits : ∀ c ∈ cs, c.isDigit = true)
    (few : cs.length ≤ mostDigits) : isShort (ofDigits cs) = true := by
  have below := ofDigits_lt digits
  rw [isShort_iff, Int.natAbs_natCast]
  cases cs with
  | nil =>
    have one := length_digits_le (n := ofDigits []) (k := 0) (by decide)
    exact Nat.le_trans one (by decide)
  | cons c rest => exact Nat.le_trans (length_digits_le below) few

theorem isShort_neg (n : Int) : isShort (-n) = isShort n := by
  rw [isShort, isShort, Int.natAbs_neg]

/-- An integer has as many digits as the powers of ten up to it say. -/
theorem isShort_of_large {n : Int} (h : 10 ^ mostDigits ≤ n.natAbs) : isShort n = false := by
  have below := ofDigits_lt (isDigit_of_mem_digits n.natAbs)
  rw [ofDigits_digits] at below
  have more := (Nat.pow_lt_pow_iff_right (by decide)).mp (Nat.lt_of_le_of_lt h below)
  rw [← Bool.not_eq_true, isShort_iff]
  omega

/-- An integer of 4335 digits. It is read from its hexadecimal digits. -/
def overlong : Int := Int.pow 16 3600

theorem isShort_overlong : isShort overlong = false :=
  isShort_of_large (by decide +kernel)

theorem integerText?_overlong : integerText? overlong = none := by
  rw [integerText?, isShort_overlong]
  rfl

theorem integerText?_of_isShort {n : Int} (h : isShort n = true) :
    integerText? n = some (String.ofList (integer n)) :=
  if_pos h

theorem integer_ne_nil (n : Int) : integer n ≠ [] := by
  obtain ⟨c, cs, first, -⟩ := digits_head n.natAbs
  rw [integer_eq, first]
  simp

end RamlBridge.Decimal

import Mathlib.Algebra.Order.Field.Power
import Mathlib.Algebra.Order.Field.Rat
import Mathlib.Tactic.FieldSimp
import Mathlib.Tactic.Linarith
import Mathlib.Tactic.Ring
import RamlBridge.Decimal.Binary64

/-!
Floating-point numbers in their only form. Rounding comes to this form, and two numbers in it that
are equal to one integer are the same.
-/
namespace RamlBridge.Binary64

/-- The significand is below 2^53, and not below 2^52 unless the exponent is the least one. -/
def IsNormal : Binary64 → Prop
  | .finite _ m e => m < 2 ^ 53 ∧ minExponent ≤ e ∧ (e = minExponent ∨ 2 ^ 52 ≤ m)
  | _ => True

theorem isNormal_zero (negative : Bool) : (zero negative).IsNormal :=
  ⟨by decide, le_refl _, .inl rfl⟩

section Rounding

variable {num den : Nat}

theorem snd_scaled_pos (h : den ≠ 0) (power : Int) : 0 < (scaled num den power).2 := by
  have positive : 0 < den := Nat.pos_of_ne_zero h
  unfold scaled
  split
  · exact positive
  · exact Nat.mul_pos positive (Nat.pow_pos (by decide))

theorem scaled_ratio (num den : Nat) (power : Int) :
    ((scaled num den power).1 : ℚ) / (scaled num den power).2 = num / den * 2 ^ power := by
  unfold scaled
  split
  · next up =>
    obtain ⟨n, rfl⟩ := Int.eq_ofNat_of_zero_le up
    simp only [Int.toNat_natCast, Nat.pow_eq, Nat.cast_mul, Nat.cast_pow,
      Nat.cast_ofNat, zpow_natCast]
    ring
  · next down =>
    obtain ⟨n, hn⟩ := Int.eq_ofNat_of_zero_le (show 0 ≤ -power by omega)
    obtain rfl : power = -(n : Int) := by omega
    simp only [neg_neg, Int.toNat_natCast, Nat.pow_eq, Nat.cast_mul, Nat.cast_pow, Nat.cast_ofNat,
      zpow_neg, zpow_natCast]
    field_simp

theorem le_roundHalfEven {k : Nat} (hd : den ≠ 0) (h : (k : ℚ) ≤ num / den) :
    k ≤ roundHalfEven num den := by
  have positive : 0 < den := Nat.pos_of_ne_zero hd
  have whole : k * den ≤ num := by
    rw [le_div_iff₀ (by exact_mod_cast positive)] at h
    exact_mod_cast h
  have below : k ≤ num / den := (Nat.le_div_iff_mul_le positive).mpr whole
  unfold roundHalfEven
  dsimp only
  split_ifs <;> omega

theorem roundHalfEven_le {k : Nat} (hd : den ≠ 0) (h : (num : ℚ) / den < k) :
    roundHalfEven num den ≤ k := by
  have positive : 0 < den := Nat.pos_of_ne_zero hd
  have whole : num < k * den := by
    rw [div_lt_iff₀ (by exact_mod_cast positive)] at h
    exact_mod_cast h
  have below : num / den < k := (Nat.div_lt_iff_lt_mul positive).mpr whole
  unfold roundHalfEven
  dsimp only
  split_ifs <;> omega

/-- A quotient lies within a factor of two of the power of two that the lengths give. -/
theorem ratio_bounds (hn : num ≠ 0) (hd : den ≠ 0) :
    (2 : ℚ) ^ ((num.log2 : Int) - den.log2 - 1) < num / den ∧
      (num : ℚ) / den < 2 ^ ((num.log2 : Int) - den.log2 + 1) := by
  have positive : (0 : ℚ) < den := by exact_mod_cast Nat.pos_of_ne_zero hd
  have numLow : (2 : ℚ) ^ (num.log2 : Int) ≤ num := by
    rw [zpow_natCast]
    exact_mod_cast Nat.log2_self_le hn
  have numHigh : (num : ℚ) < 2 ^ ((num.log2 : Int) + 1) := by
    exact_mod_cast Nat.lt_log2_self (n := num)
  have denLow : (2 : ℚ) ^ (den.log2 : Int) ≤ den := by
    rw [zpow_natCast]
    exact_mod_cast Nat.log2_self_le hd
  have denHigh : (den : ℚ) < 2 ^ ((den.log2 : Int) + 1) := by
    exact_mod_cast Nat.lt_log2_self (n := den)
  have two : (2 : ℚ) ≠ 0 := by norm_num
  constructor
  · rw [lt_div_iff₀ positive]
    calc (2 : ℚ) ^ ((num.log2 : Int) - den.log2 - 1) * den
        < 2 ^ ((num.log2 : Int) - den.log2 - 1) * 2 ^ ((den.log2 : Int) + 1) := by gcongr
      _ = 2 ^ (num.log2 : Int) := by
        rw [← zpow_add₀ two]
        congr 1
        ring
      _ ≤ num := numLow
  · rw [div_lt_iff₀ positive]
    calc (num : ℚ) < 2 ^ ((num.log2 : Int) + 1) := numHigh
      _ = 2 ^ ((num.log2 : Int) - den.log2 + 1) * 2 ^ (den.log2 : Int) := by
        rw [← zpow_add₀ two]
        congr 1
        ring
      _ ≤ 2 ^ ((num.log2 : Int) - den.log2 + 1) * den := by gcongr

theorem significand_le (hd : den ≠ 0) {e : Int} (h : (num : ℚ) / den < 2 ^ (e + 53)) :
    roundHalfEven (scaled num den (-e)).1 (scaled num den (-e)).2 ≤ 2 ^ 53 := by
  have whole : ((2 ^ 53 : Nat) : ℚ) = 2 ^ (53 : Int) := by norm_num
  apply roundHalfEven_le (snd_scaled_pos hd (-e)).ne'
  rw [scaled_ratio, zpow_neg, ← div_eq_mul_inv, div_lt_iff₀ (by positivity), whole,
    ← zpow_add₀ two_ne_zero, add_comm]
  exact h

theorem le_significand (hd : den ≠ 0) {e : Int} (h : (2 : ℚ) ^ (e + 52) ≤ num / den) :
    2 ^ 52 ≤ roundHalfEven (scaled num den (-e)).1 (scaled num den (-e)).2 := by
  have whole : ((2 ^ 52 : Nat) : ℚ) = 2 ^ (52 : Int) := by norm_num
  apply le_roundHalfEven (snd_scaled_pos hd (-e)).ne'
  rw [scaled_ratio, zpow_neg, ← div_eq_mul_inv, le_div_iff₀ (by positivity), whole,
    ← zpow_add₀ two_ne_zero, add_comm]
  exact h

/-- The exponent that a quotient is rounded at, unless it is too small. -/
def unitExponent (num den : Nat) : Int :=
  let estimate : Int := (num.log2 : Int) - den.log2 - 53
  let top := scaled num den (-(estimate + 53))
  if top.2 ≤ top.1 then estimate + 1 else estimate

theorem unit_bounds (hn : num ≠ 0) (hd : den ≠ 0) :
    (2 : ℚ) ^ (unitExponent num den + 52) ≤ num / den ∧
      (num : ℚ) / den < 2 ^ (unitExponent num den + 53) := by
  obtain ⟨low, high⟩ := ratio_bounds hn hd
  unfold unitExponent
  dsimp only
  rw [sub_add_cancel]
  generalize (num.log2 : Int) - den.log2 = length at low high ⊢
  -- the first part is at least the second just if the power of two is at most the quotient
  have compare : (scaled num den (-length)).2 ≤ (scaled num den (-length)).1 ↔
      (2 : ℚ) ^ length ≤ num / den := by
    have positive : (0 : ℚ) < (scaled num den (-length)).2 := by
      exact_mod_cast snd_scaled_pos hd (-length)
    have power : (0 : ℚ) < 2 ^ length := by positivity
    rw [← Nat.cast_le (α := ℚ), ← one_le_div₀ positive, scaled_ratio, zpow_neg, ← div_eq_mul_inv,
      one_le_div₀ power]
  split
  · next above =>
    rw [show length - 53 + 1 + 52 = length by ring, show length - 53 + 1 + 53 = length + 1 by ring]
    exact ⟨compare.mp above, high⟩
  · next below =>
    rw [show length - 53 + 52 = length - 1 by ring, show length - 53 + 53 = length by ring]
    exact ⟨low.le, lt_of_not_ge fun h => below (compare.mpr h)⟩

/-- The number of a rounded significand, which may have grown by one digit. -/
def ofRounded (negative : Bool) (m : Nat) (e : Int) : Binary64 :=
  let (m, e) := if m = Nat.pow 2 53 then (Nat.pow 2 52, e + 1) else (m, e)
  if maxExponent < e then .infinity negative
  else if m = 0 then zero negative
  else .finite negative m e

theorem ofRatio_eq (negative : Bool) (hn : num ≠ 0) (hd : den ≠ 0) :
    ofRatio negative num den =
      let e := max minExponent (unitExponent num den)
      ofRounded negative (roundHalfEven (scaled num den (-e)).1 (scaled num den (-e)).2) e := by
  rw [ofRatio, if_neg (not_or.mpr ⟨hn, hd⟩)]
  rfl

theorem isNormal_ofRounded (negative : Bool) {m : Nat} {e : Int} (above : m ≤ 2 ^ 53)
    (least : minExponent ≤ e) (below : e = minExponent ∨ 2 ^ 52 ≤ m) :
    (ofRounded negative m e).IsNormal := by
  unfold ofRounded
  by_cases grown : m = Nat.pow 2 53
  · rw [if_pos grown]
    dsimp only
    split_ifs
    · trivial
    · exact isNormal_zero negative
    · exact ⟨by decide, by omega, .inr (le_refl _)⟩
  · rw [if_neg grown]
    dsimp only
    split_ifs
    · trivial
    · exact isNormal_zero negative
    · exact ⟨lt_of_le_of_ne above grown, least, below⟩

/-- Rounding comes to the only form. -/
theorem isNormal_ofRatio (negative : Bool) (num den : Nat) :
    (ofRatio negative num den).IsNormal := by
  by_cases given : num = 0 ∨ den = 0
  · rw [ofRatio, if_pos given]
    exact isNormal_zero negative
  · obtain ⟨hn, hd⟩ := not_or.mp given
    obtain ⟨low, high⟩ := unit_bounds hn hd
    rw [ofRatio_eq negative hn hd]
    dsimp only
    generalize he : max minExponent (unitExponent num den) = e
    have least : minExponent ≤ e := he ▸ le_max_left _ _
    have grown : unitExponent num den + 53 ≤ e + 53 := by omega
    refine isNormal_ofRounded negative ?_ least ?_
    · exact significand_le hd (high.trans_le (zpow_le_zpow_right₀ one_le_two grown))
    · by_cases small : e = minExponent
      · exact .inl small
      · obtain rfl : e = unitExponent num den := by omega
        exact .inr (le_significand hd low)

theorem isNormal_ofDecimal (negative : Bool) (digits count : Nat) (power : Int) :
    (ofDecimal negative digits count power).IsNormal := by
  unfold ofDecimal
  split_ifs
  · exact isNormal_zero negative
  · trivial
  · exact isNormal_zero negative
  · exact isNormal_ofRatio negative _ _
  · exact isNormal_ofRatio negative _ _

end Rounding

section Equality

variable {a b : Bool} {m n : Nat} {e f : Int}

/-- A number is equal to an integer if that is its exact value. -/
theorem toInt?_finite {k : Int} (h : (finite a m e).toInt? = some k) :
    (k : ℚ) = (if a then -1 else 1) * (m * 2 ^ e) := by
  have ratio := scaled_ratio m 1 e
  have positive : 0 < (scaled m 1 e).2 := snd_scaled_pos one_ne_zero e
  simp only [toInt?, Option.ite_none_right_eq_some, Option.some.injEq] at h
  obtain ⟨whole, rfl⟩ := h
  obtain ⟨q, hq⟩ := Nat.dvd_of_mod_eq_zero whole
  have exact : (q : ℚ) = m * 2 ^ e := by
    have apart : ((scaled m 1 e).2 : ℚ) ≠ 0 := by exact_mod_cast positive.ne'
    rw [hq, Nat.cast_mul, mul_div_cancel_left₀ _ apart, Nat.cast_one, div_one] at ratio
    exact ratio
  rw [Nat.div_eq_of_eq_mul_right positive hq, ← exact]
  cases a with
  | true => simp
  | false => simp

theorem toInt?_zero (a : Bool) (e : Int) : (finite a 0 e).toInt? = some 0 := by
  have nothing : (scaled 0 1 e).1 = 0 := by
    unfold scaled
    split <;> simp
  simp [toInt?, nothing]

theorem finite_inj_of_le (hx : (finite a m e).IsNormal) (hy : (finite b n f).IsNormal)
    (order : e ≤ f) (same : (m : ℚ) * 2 ^ e = n * 2 ^ f) : m = n ∧ e = f := by
  obtain ⟨k, rfl⟩ := Int.le.dest order
  have shifted : m = n * 2 ^ k := by
    rw [zpow_add₀ two_ne_zero, zpow_natCast, ← mul_assoc, mul_right_comm] at same
    have cancelled := mul_right_cancel₀ (zpow_ne_zero e two_ne_zero) same
    exact_mod_cast cancelled
  cases k with
  | zero => exact ⟨by simpa using shifted, by simp⟩
  | succ k =>
    -- a larger exponent is not the least one, so that its significand is large, and the other one
    -- is larger still
    have large : 2 ^ 52 ≤ n := by
      obtain ⟨_, _, small | large⟩ := hy
      · have := hx.2.1
        omega
      · exact large
    have small := hx.1
    have : n * 2 ≤ m := by
      rw [shifted, pow_succ, ← mul_assoc]
      exact Nat.mul_le_mul_right 2 (Nat.le_mul_of_pos_right n (Nat.pow_pos (by decide)))
    omega

theorem finite_inj (hx : (finite a m e).IsNormal) (hy : (finite b n f).IsNormal)
    (same : (m : ℚ) * 2 ^ e = n * 2 ^ f) : m = n ∧ e = f := by
  rcases le_total e f with order | order
  · exact finite_inj_of_le hx hy order same
  · obtain ⟨hm, he⟩ := finite_inj_of_le hy hx order same.symm
    exact ⟨hm.symm, he.symm⟩

theorem same_finite_iff :
    (finite a m e).same (finite b n f) = true ↔
      m = 0 ∧ n = 0 ∨ (a = b ∧ m = n) ∧ e = f := by
  simp [same]

/-- Numbers in their only form that are equal to one integer are the same. -/
theorem same_of_toInt? {x y : Binary64} (hx : x.IsNormal) (hy : y.IsNormal) {k : Int}
    (h : x.toInt? = some k) (h' : y.toInt? = some k) : x.same y = true := by
  cases x with
  | nan => cases h
  | infinity => cases h
  | finite a m e =>
    cases y with
    | nan => cases h'
    | infinity => cases h'
    | finite b n f =>
      have values := toInt?_finite h
      rw [toInt?_finite h'] at values
      have left : (0 : ℚ) ≤ m * 2 ^ e := by positivity
      have right : (0 : ℚ) ≤ n * 2 ^ f := by positivity
      have magnitudes : (m : ℚ) * 2 ^ e = n * 2 ^ f := by
        cases a <;> cases b <;> simp only [reduceIte, Bool.false_eq_true] at values <;> linarith
      obtain ⟨rfl, rfl⟩ := finite_inj hx hy magnitudes
      rw [same_finite_iff]
      by_cases signs : a = b
      · exact .inr ⟨⟨signs, rfl⟩, rfl⟩
      · have nothing : (m : ℚ) * 2 ^ e = 0 := by
          obtain rfl : a = !b := Bool.eq_not_of_ne signs
          cases b <;> simp only [Bool.not_true, Bool.not_false, reduceIte, Bool.false_eq_true]
            at values <;> linarith
        have zero : m = 0 := by simpa [zpow_ne_zero] using nothing
        exact .inl ⟨zero, zero⟩

theorem toInt?_of_same {x y : Binary64} (h : x.same y = true) : x.toInt? = y.toInt? := by
  cases x with
  | nan =>
    cases y with
    | nan => rfl
    | _ => cases h
  | infinity a =>
    cases y with
    | infinity b => rfl
    | _ => cases h
  | finite a m e =>
    cases y with
    | finite b n f =>
      rcases same_finite_iff.mp h with ⟨rfl, rfl⟩ | ⟨⟨rfl, rfl⟩, rfl⟩
      · rw [toInt?_zero, toInt?_zero]
      · rfl
    | _ => cases h

/-- A number that is equal to no integer is the same as itself only. -/
theorem eq_of_same {x y : Binary64} (h : x.same y = true) (fractional : x.toInt? = none) :
    x = y := by
  cases x with
  | nan =>
    cases y with
    | nan => rfl
    | _ => cases h
  | infinity a =>
    cases y with
    | infinity b => rw [eq_of_beq h]
    | _ => cases h
  | finite a m e =>
    cases y with
    | finite b n f =>
      rcases same_finite_iff.mp h with ⟨rfl, rfl⟩ | ⟨⟨rfl, rfl⟩, rfl⟩
      · rw [toInt?_zero] at fractional
        cases fractional
      · rfl
    | _ => cases h

theorem same_refl (x : Binary64) : x.same x = true := by
  cases x <;> simp [same]

end Equality

end RamlBridge.Binary64

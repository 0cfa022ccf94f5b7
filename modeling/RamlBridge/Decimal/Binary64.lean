/-!
Binary floating-point numbers of 64 bits as exact values: a significand below 2^53 times a power
of two not below 2^(-1074), with a sign, or an infinity, or no number.
-/
namespace RamlBridge

inductive Binary64 where
  | nan
  | infinity (negative : Bool)
  | finite (negative : Bool) (significand : Nat) (exponent : Int)
deriving DecidableEq, Repr, Inhabited

namespace Binary64

def minExponent : Int := -1074

def maxExponent : Int := 971

def zero (negative : Bool) : Binary64 :=
  .finite negative 0 minExponent

/-- A quotient rounded to the nearest integer; a half goes to the even neighbour. -/
def roundHalfEven (num den : Nat) : Nat :=
  let q := num / den
  let r := num % den
  if 2 * r < den then q
  else if den < 2 * r then q + 1
  else if q % 2 = 0 then q else q + 1

def scaled (num den : Nat) (power : Int) : Nat × Nat :=
  if 0 ≤ power then (num * Nat.pow 2 power.toNat, den) else (num, den * Nat.pow 2 (-power).toNat)

/-- The number nearest to a quotient; from 2^1024 on, less half a unit, an infinity. -/
def ofRatio (negative : Bool) (num den : Nat) : Binary64 :=
  if num = 0 ∨ den = 0 then zero negative
  else
    let estimate : Int := (num.log2 : Int) - den.log2 - 53
    let top := scaled num den (-(estimate + 53))
    let exponent := max minExponent (if top.2 ≤ top.1 then estimate + 1 else estimate)
    let unit := scaled num den (-exponent)
    let significand := roundHalfEven unit.1 unit.2
    let (significand, exponent) :=
      if significand = Nat.pow 2 53 then (Nat.pow 2 52, exponent + 1) else (significand, exponent)
    if maxExponent < exponent then .infinity negative
    else if significand = 0 then zero negative
    else .finite negative significand exponent

/-- The number nearest to a decimal one, given by its digits as a number, their count and a power
of ten. -/
def ofDecimal (negative : Bool) (digits count : Nat) (power : Int) : Binary64 :=
  if digits = 0 then zero negative
  else if 400 < power + count then .infinity negative
  else if power + count < -400 then zero negative
  else if 0 ≤ power then ofRatio negative (digits * Nat.pow 10 power.toNat) 1
  else ofRatio negative digits (Nat.pow 10 (-power).toNat)

def ofNat (n : Nat) : Binary64 :=
  ofRatio false n 1

def isFinite : Binary64 → Bool
  | .finite .. => true
  | _ => false

def toInt? : Binary64 → Option Int
  | .finite negative m e =>
    let q := scaled m 1 e
    if q.1 % q.2 = 0 then
      some (if negative then -((q.1 / q.2 : Nat) : Int) else ((q.1 / q.2 : Nat) : Int))
    else none
  | _ => none

/-- Equality of numbers as parts of a value: the zeros are equal, and what is no number is equal to
itself. -/
def same : Binary64 → Binary64 → Bool
  | .nan, .nan => true
  | .infinity a, .infinity b => a == b
  | .finite a m e, .finite b n f => (m == 0 && n == 0) || (a == b && m == n && e == f)
  | _, _ => false

def neg : Binary64 → Binary64
  | .nan => .nan
  | .infinity a => .infinity !a
  | .finite a m e => .finite (!a) m e

/-- The exact value of a finite number as an integer times a power of two. -/
private def signed (negative : Bool) (m : Nat) : Int :=
  if negative then -(m : Int) else m

def add : Binary64 → Binary64 → Binary64
  | .nan, _ => .nan
  | _, .nan => .nan
  | .infinity a, .infinity b => if a == b then .infinity a else .nan
  | .infinity a, _ => .infinity a
  | _, .infinity b => .infinity b
  | .finite a m e, .finite b n f =>
    let low := min e f
    let total := signed a m * Int.ofNat (Nat.pow 2 (e - low).toNat) +
      signed b n * Int.ofNat (Nat.pow 2 (f - low).toNat)
    if total = 0 then zero (a && b)
    else
      let q := scaled total.natAbs 1 low
      ofRatio (total < 0) q.1 q.2

def mul : Binary64 → Binary64 → Binary64
  | .nan, _ | _, .nan => .nan
  | .infinity a, .infinity b => .infinity (a != b)
  | .infinity a, .finite b m _ | .finite b m _, .infinity a =>
    if m = 0 then .nan else .infinity (a != b)
  | .finite a m e, .finite b n f =>
    let q := scaled (m * n) 1 (e + f)
    ofRatio (a != b) q.1 q.2

end Binary64

end RamlBridge

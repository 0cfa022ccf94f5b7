import RamlBridge.Decimal.Digits
import RamlBridge.Decimal.Shortest

/-!
The decimal text of a binary floating-point number.
-/
namespace RamlBridge

/-- How a number is written: the decimal exponents that are written positionally, and the texts
of the values that have no digits. -/
structure FloatFormat where
  leastPositional : Int
  mostPositional : Int
  infinity : String
  nan : String

namespace FloatFormat

/-- Digits with a point after the first p of them, filled up with zeros where they do not reach
the point; at least one digit stands on each side. -/
def positional (ds : List Char) (p : Int) : List Char :=
  if p ≤ 0 then '0' :: '.' :: (List.replicate (-p).toNat '0' ++ ds)
  else if (ds.length : Int) ≤ p then ds ++ List.replicate (p.toNat - ds.length) '0' ++ ['.', '0']
  else ds.take p.toNat ++ '.' :: ds.drop p.toNat

/-- Digits with a point after the first, and an exponent of two digits or more with a sign. -/
def scientific (ds : List Char) (exponent : Int) : List Char :=
  let mantissa := match ds with
    | d :: rest@(_ :: _) => d :: '.' :: rest
    | _ => ds
  mantissa ++ 'e' :: (if exponent < 0 then '-' else '+') :: Decimal.padded 2 exponent.natAbs

def significantDigits (n : Nat) : List Char :=
  ((Decimal.digits n).reverse.dropWhile (· == '0')).reverse

def write (format : FloatFormat) : Binary64 → List Char
  | .nan => format.nan.toList
  | .infinity negative => (if negative then ['-'] else []) ++ format.infinity.toList
  | .finite negative m e =>
    (if negative then ['-'] else []) ++
      if m = 0 then ['0', '.', '0']
      else
        let (n, power) := Decimal.shortest m e
        let exponent := power + (Decimal.digits n).length - 1
        let ds := significantDigits n
        if format.leastPositional ≤ exponent ∧ exponent ≤ format.mostPositional then
          positional ds (exponent + 1)
        else scientific ds exponent

end FloatFormat

end RamlBridge

/-!
Decimal digits of numbers. Integers of too many digits are neither read from a text nor written as
one.
-/
namespace RamlBridge.Decimal

def mostDigits : Nat := 4300

def digitChar (d : Nat) : Char :=
  Char.ofNat ('0'.toNat + d)

/-- The digits of a number put in front of a list, by recursion on the quotient by ten. -/
def digitsOnto (n : Nat) (tail : List Char) : List Char :=
  if n < 10 then digitChar n :: tail
  else digitsOnto (n / 10) (digitChar (n % 10) :: tail)

/-- The digits of a number, without leading zeros. -/
def digits (n : Nat) : List Char :=
  digitsOnto n []

def ofDigits (cs : List Char) : Nat :=
  cs.foldl (fun n c => 10 * n + (c.toNat - '0'.toNat)) 0

def integer : Int → List Char
  | .ofNat n => digits n
  | .negSucc n => '-' :: digits (n + 1)

def text (n : Nat) : String :=
  String.ofList (digits n)

def isShort (n : Int) : Bool :=
  (digits n.natAbs).length ≤ mostDigits

/-- The text of an integer, unless it has too many digits. -/
def integerText? (n : Int) : Option String :=
  if isShort n then some (String.ofList (integer n)) else none

/-- A number in at least the given count of digits, filled up with zeros in front. -/
def padded (width n : Nat) : List Char :=
  let ds := digits n
  List.replicate (width - ds.length) '0' ++ ds

end RamlBridge.Decimal

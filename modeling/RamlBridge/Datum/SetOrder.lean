import RamlBridge.Datum.Basic

/-!
The order in which a set lists its members. Numbers lie in a table at places that their values
give, so that small ones come in ascending order; any other set keeps the order that it was written
in.
-/
namespace RamlBridge.Scalar

/-- What the values of numbers are counted modulo: the Mersenne prime of 61 bits. -/
def modulus : Nat := Nat.pow 2 61 - 1

/-- The residue of a number: of a fraction too, since two has an inverse. The one of -1 is that
of -2. -/
def residue? (s : Scalar) : Option Int :=
  let signed (negative : Bool) (n : Nat) : Int :=
    if negative then (if n = 1 then -2 else -(n : Int)) else n
  match s.integer?, s with
  | some n, _ => some (signed (n < 0) (n.natAbs % modulus))
  | none, .float (.infinity negative) => some (signed negative 314159)
  | none, .float (.finite negative m e) =>
    some (signed negative (m * Nat.pow 2 (e % 61).toNat % modulus))
  | none, _ => none

/-- The size of the table for a count of members: a power of two, and more than twice the count
from five members on. -/
def tableSize (count : Nat) : Nat :=
  if count < 5 then 8 else Nat.pow 2 ((2 * count).log2 + 1)

/-- The first place that is not taken, of ten in a row and then of ten somewhere else, and so on. -/
def freePlace (size : Nat) (taken : List Nat) : Nat → Nat → Nat → Nat
  | 0, place, _ => place
  | fuel + 1, place, code =>
    let row := if place + 9 < size then (List.range 10).map (place + ·) else [place]
    match row.find? (!taken.contains ·) with
    | some free => free
    | none => freePlace size taken fuel ((5 * place + 1 + code / 32) % size) (code / 32)

/-- The places of members by their residues; those taken before come in reverse. -/
def places (size : Nat) (taken : List Nat) : List Int → List Nat
  | [] => taken.reverse
  | residue :: rest =>
    let code := (residue % Nat.pow 2 64).toNat
    places size (freePlace size taken (size + 16) (code % size) code :: taken) rest

def listed (members : List Scalar) : List Scalar :=
  match members.mapM residue? with
  | some residues =>
    (((places (tableSize members.length) [] residues).zip members).mergeSort
      fun p q => p.1 ≤ q.1).map Prod.snd
  | none => members

end RamlBridge.Scalar

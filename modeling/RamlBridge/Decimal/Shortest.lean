import RamlBridge.Decimal.Binary64

/-!
The shortest decimal number that rounds to a given binary one, and among those the nearest.
-/
namespace RamlBridge.Decimal

/-- The numbers that round to m times 2^q, in units of 2^(q-2): those strictly between the
bounds, and the bounds too if m is even. -/
def roundingBounds (m : Nat) (q : Int) : Nat × Nat :=
  (if m = Nat.pow 2 52 ∧ Binary64.minExponent < q then 4 * m - 1 else 4 * m - 2, 4 * m + 2)

/-- The least k with num/den below 10^k, for a positive quotient, sought from an estimate. -/
def magnitude (num den : Nat) : Int :=
  let below (k : Int) : Bool :=
    if 0 ≤ k then num < den * Nat.pow 10 k.toNat else num * Nat.pow 10 (-k).toNat < den
  let estimate : Int := ((num.log2 : Int) - den.log2) * 30103 / 100000 - 1
  let offset := ((List.range 5).find? fun (i : Nat) => below (estimate + i)).getD 5
  estimate + offset

/-- The candidate with the given count of digits that lies nearest to m times 2^q among the two
neighbours on that grid, if one of them rounds to it: the digits and their power of ten. -/
def candidate? (m : Nat) (q : Int) (count : Nat) : Option (Nat × Int) :=
  let value := Binary64.scaled (4 * m) 1 (q - 2)
  let power := magnitude value.1 value.2 - count
  let bounds := roundingBounds m q
  let units (n : Nat) : Nat := (Binary64.scaled n 1 (q - 2)).1
  let step : Nat := if 0 ≤ power then Nat.pow 10 power.toNat else 1
  let widen : Nat := if 0 ≤ power then 1 else Nat.pow 10 (-power).toNat
  let floor := value.1 * widen / (value.2 * step)
  let at' (n : Nat) : Nat := n * step * value.2
  let inside (n : Nat) : Bool :=
    let low := units bounds.1 * widen
    let high := units bounds.2 * widen
    if m % 2 = 0 then low ≤ at' n && at' n ≤ high else low < at' n && at' n < high
  let below := value.1 * widen - at' floor
  let above := at' (floor + 1) - value.1 * widen
  match inside floor, inside (floor + 1) with
  | true, true =>
    if below < above ∨ (below = above ∧ floor % 2 = 0) then some (floor, power)
    else some (floor + 1, power)
  | true, false => some (floor, power)
  | false, true => some (floor + 1, power)
  | false, false => none

/-- The shortest digits of a positive number m times 2^q with their power of ten; seventeen
digits always suffice. -/
def shortest (m : Nat) (q : Int) : Nat × Int :=
  ((List.range 17).findSome? fun i => candidate? m q (i + 1)).getD (m, 0)

end RamlBridge.Decimal

/-!
Ranges of code points.
-/
namespace RamlBridge.Text

/-- Whether a character is in one of some ranges, which are given by their ends. -/
def isIn (ranges : List (Nat × Nat)) (c : Char) : Bool :=
  ranges.any fun r => r.1 ≤ c.toNat && c.toNat ≤ r.2

end RamlBridge.Text

import RamlBridge.Entries
import RamlBridge.Decimal.Binary64

/-!
JSON values. Integers are exact and apart from floating-point numbers; the members of an object
keep their order.
-/
namespace RamlBridge

inductive Json where
  | null
  | bool (b : Bool)
  | int (n : Int)
  | float (x : Binary64)
  | text (s : String)
  | array (items : List Json)
  | object (members : List (String × Json))
deriving Inhabited

namespace Json

def member? : Json → String → Option Json
  | .object members, name => Entries.find? members name
  | _, _ => none

def integer? : Json → Option Int
  | .bool b => some (if b then 1 else 0)
  | .int n => some n
  | .float x => x.toInt?
  | _ => none

/-- Equality of scalars by value: numbers are equal across their kinds, and a boolean is the
number one or zero. -/
def sameScalar (a b : Json) : Bool :=
  match a, b with
  | .null, .null => true
  | .text s, .text t => s == t
  | .float x, .float y => x.same y
  | _, _ =>
    match a.integer?, b.integer? with
    | some m, some n => m == n
    | _, _ => false

mutual

/-- Equality by value: numbers across their kinds, and objects whatever the order of their
members. -/
def same : Json → Json → Bool
  | .array xs, b => match b with
    | .array ys => sameItems xs ys
    | _ => false
  | .object ms, b => match b with
    | .object ns => ms.length == ns.length && sameMembers ms ns
    | _ => false
  | a, b => sameScalar a b

def sameItems : List Json → List Json → Bool
  | [], [] => true
  | x :: xs, y :: ys => same x y && sameItems xs ys
  | _, _ => false

/-- Whether each of the members stands in the other object with the same value. -/
def sameMembers : List (String × Json) → List (String × Json) → Bool
  | [], _ => true
  | (name, x) :: rest, others =>
    (match Entries.find? others name with
      | some y => same x y
      | none => false) && sameMembers rest others

end

end Json

end RamlBridge

import RamlBridge.Datum.Basic

/-!
The values of a document as they are put together: each collection has a number, and its shape says
what stands in it, other collections by their numbers.
-/
namespace RamlBridge.Yaml

/-- A value in a collection: a leaf, or another collection by its number. -/
inductive Part where
  | leaf (d : Datum)
  | collection (number : Nat)
deriving Inhabited

/-- A key of a map. What is no number may stand several times, each time with a mark of its own. -/
structure Key where
  scalar : Scalar
  mark : Option Nat
deriving Inhabited

namespace Key

def same (a b : Key) : Bool :=
  a.scalar.sameKey b.scalar && a.mark == b.mark

/-- Sets the value under a key in place, or at the end if the key is new. -/
def put {α : Type} : List (Key × α) → Key → α → List (Key × α)
  | [], key, value => [(key, value)]
  | (k, v) :: rest, key, value =>
    if k.same key then (k, value) :: rest else (k, v) :: put rest key value

def distinct {α : Type} (entries : List (Key × α)) : List (Scalar × α) :=
  (entries.foldl (fun es p => put es p.1 p.2) []).map fun p => (p.1.scalar, p.2)

end Key

inductive Shape where
  | list (items : List Part)
  | pairs (items : List (Part × Part))
  | set (members : List Scalar)
  | map (entries : List (Scalar × Part))
deriving Inhabited

abbrev Shapes := List (Nat × Shape)

def Part.datum (shapes : Shapes) : Nat → Part → Datum
  | _, .leaf d => d
  | 0, .collection _ => .null
  | depth + 1, .collection number =>
    let inner := Part.datum shapes depth
    match (shapes.find? (·.1 == number)).map Prod.snd with
    | none => .null
    | some (.list items) => .list (items.map inner)
    | some (.pairs items) => .list (items.map fun p => .pair (inner p.1) (inner p.2))
    | some (.set members) => .set members
    | some (.map entries) => .map (entries.map fun p => (p.1, inner p.2))

end RamlBridge.Yaml

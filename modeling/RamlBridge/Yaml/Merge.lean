import RamlBridge.Yaml.Node

/-!
Merge keys. They are resolved in a mapping when it is first used as one; from then on the mapping
has the entries that they bring in, in front of its own.
-/
namespace RamlBridge.Yaml

/-- What merging has changed so far: the entries of mappings by number, and the numbers of value
keys, which count as texts from then on. -/
structure Merges where
  entries : List (Nat × List (Node × Node))
  texts : List Nat
deriving Inhabited

namespace Merges

def empty : Merges := ⟨[], []⟩

/-- The entries of a mapping whose merge keys are resolved. -/
def resolved? (m : Merges) (number : Nat) : Option (List (Node × Node)) :=
  (m.entries.find? (·.1 == number)).map Prod.snd

def tag (m : Merges) (n : Node) : String :=
  if m.texts.contains n.number then Tag.text else n.tag

/-- The present entries of a mapping. -/
def entriesOf? (m : Merges) : Node → Option (List (Node × Node))
  | .mapping number _ entries => some ((m.resolved? number).getD entries)
  | _ => none

/-- Counts a value key as a text. -/
def asText (m : Merges) (key : Node) : Merges :=
  if m.tag key = Tag.value then { m with texts := key.number :: m.texts } else m

mutual

/-- The entries that a merge key with this value brings in: those of a mapping, or of the mappings
of a sequence from the last one to the first. There are none if the value is anything else. -/
def source (m : Merges) : Node → Option (List (Node × Node) × Merges)
  | .scalar .. => none
  | .sequence _ _ items => sources m items
  | .mapping number _ entries =>
    match m.resolved? number with
    | some found => some (found, m)
    | none => do
      let (merged, own, m) ← divide m entries
      some (merged ++ own, { m with entries := (number, merged ++ own) :: m.entries })

def sources (m : Merges) : List Node → Option (List (Node × Node) × Merges)
  | [] => some ([], m)
  | n :: rest => do
    let (found, m) ← if n matches .mapping .. then source m n else none
    let (more, m) ← sources m rest
    some (more ++ found, m)

/-- The entries that merge keys bring in, and the other entries. -/
def divide (m : Merges) :
    List (Node × Node) → Option (List (Node × Node) × List (Node × Node) × Merges)
  | [] => some ([], [], m)
  | (k, v) :: rest =>
    if m.tag k = Tag.merge then do
      let (found, m) ← source m v
      let (merged, own, m) ← divide m rest
      some (found ++ merged, own, m)
    else do
      let (merged, own, m) ← divide (m.asText k) rest
      some (merged, (k, v) :: own, m)

end

end Merges

end RamlBridge.Yaml

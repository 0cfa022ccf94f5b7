import RamlBridge.Datum.SetOrder
import RamlBridge.Yaml.Merge
import RamlBridge.Yaml.ScalarValue
import RamlBridge.Yaml.Shape

/-!
Collections filled from their nodes. A collection begins empty where it first stands and is filled
once everything begun before it is, so that of several faults the highest one counts, and of those
on one level the first.
-/
namespace RamlBridge.Yaml

/-- Why a node has no value: it does not fit its tag, its text does not, or what it includes could
not be had. -/
inductive ValueFault (ε : Type) where
  | malformed
  | unreadable (fault : ScalarFault)
  | included (error : ε)

/-- The collections so far: what merging has changed, the numbers of all that were begun, the nodes
of those still to be filled, the last one first, and the shapes of the others. -/
structure Filling where
  merges : Merges
  begun : List Nat
  pending : List Node
  shapes : Shapes
deriving Inhabited

namespace Filling

variable {ε : Type}

def empty : Filling := ⟨.empty, [], [], []⟩

/-- A collection to be filled, once. -/
def begin (f : Filling) (n : Node) : Part × Filling :=
  let f := if f.begun.contains n.number then f
    else { f with begun := n.number :: f.begun, pending := n :: f.pending }
  (.collection n.number, f)

def shaped (f : Filling) (n : Node) (shape : Shape) : Filling :=
  { f with shapes := (n.number, shape) :: f.shapes }

mutual

/-- The text of a node that is to be a scalar. A mapping has the text of its value key, as long as
it was not used as a mapping. -/
def text? (m : Merges) : Node → Option String
  | .scalar _ _ text => some text
  | .sequence .. => none
  | .mapping number _ entries =>
    if (m.resolved? number).isSome then none else valueText? m entries

def valueText? (m : Merges) : List (Node × Node) → Option String
  | [] => none
  | (k, v) :: rest => if m.tag k = Tag.value then text? m v else valueText? m rest

end

section Inclusion

variable (inclusion : String → Except ε Datum)

def scalarDatum (tag text : String) : Except (ValueFault ε) Datum :=
  if tag = Tag.inclusion then
    match inclusion text with
    | .ok d => .ok d
    | .error e => .error (.included e)
  else
    match scalarValue? tag text with
    | some (.ok s) => .ok (.scalar s)
    | some (.error e) => .error (.unreadable e)
    | none => .error .malformed

/-- The part that a node is, which is begun if it is a collection. -/
def part (f : Filling) (n : Node) : Except (ValueFault ε) (Part × Filling) :=
  let tag := f.merges.tag n
  if Tag.collections.contains tag then .ok (f.begin n)
  else
    match n, text? f.merges n with
    | _, none => .error .malformed
    | .mapping .., some text =>
      if tag = Tag.timestamp then .error (.unreadable .mappedDate)
      else (scalarDatum inclusion tag text).map fun d => (.leaf d, f)
    | _, some text => (scalarDatum inclusion tag text).map fun d => (.leaf d, f)

def parts (f : Filling) : List Node → Except (ValueFault ε) (List Part × Filling)
  | [] => .ok ([], f)
  | n :: rest => do
    let (p, f) ← f.part inclusion n
    let (ps, f) ← parts f rest
    .ok (p :: ps, f)

def key (f : Filling) (n : Node) : Except (ValueFault ε) (Key × Filling) := do
  let (p, f) ← f.part inclusion n
  match p with
  | .leaf (.scalar s) =>
    let apart := s = .float .nan ∧ ¬ (text? f.merges n).any isNoNumberWord
    .ok (⟨s, if apart then some n.number else none⟩, f)
  | _ => .error .malformed

def entries (f : Filling) :
    List (Node × Node) → Except (ValueFault ε) (List (Key × Part) × Filling)
  | [] => .ok ([], f)
  | (k, v) :: rest => do
    let (key, f) ← f.key inclusion k
    let (p, f) ← f.part inclusion v
    let (ps, f) ← entries f rest
    .ok ((key, p) :: ps, f)

/-- The pairs of mappings of one entry each. -/
def pairs (f : Filling) : List Node → Except (ValueFault ε) (List (Part × Part) × Filling)
  | [] => .ok ([], f)
  | n :: rest =>
    match f.merges.entriesOf? n with
    | some [(k, v)] => do
      let (k, f) ← f.part inclusion k
      let (v, f) ← f.part inclusion v
      let (ps, f) ← pairs f rest
      .ok ((k, v) :: ps, f)
    | _ => .error .malformed

/-- The entries of a mapping that is used as one, each key once. -/
def mapEntries (f : Filling) (n : Node) :
    Except (ValueFault ε) (List (Scalar × Part) × Filling) :=
  match n, f.merges.source n with
  | .mapping .., some (es, merges) =>
    (entries inclusion { f with merges } es).map fun p => (Key.distinct p.1, p.2)
  | _, _ => .error .malformed

def fill (f : Filling) (n : Node) : Except (ValueFault ε) Filling :=
  let tag := f.merges.tag n
  if tag = Tag.mapping then do
    let (es, f) ← f.mapEntries inclusion n
    .ok (f.shaped n (.map es))
  else if tag = Tag.set then do
    let (es, f) ← f.mapEntries inclusion n
    .ok (f.shaped n (.set (Scalar.listed (es.map Prod.fst))))
  else
    match n with
    | .sequence _ _ items =>
      if tag = Tag.sequence then do
        let (ps, f) ← f.parts inclusion items
        .ok (f.shaped n (.list ps))
      else do
        let (ps, f) ← f.pairs inclusion items
        .ok (f.shaped n (.pairs ps))
    | _ => .error .malformed

def fillEach (f : Filling) : List Node → Except (ValueFault ε) Filling
  | [] => .ok f
  | n :: rest => do
    let f ← f.fill inclusion n
    fillEach f rest

/-- Fills what is pending, and what is begun on the way, down to a depth. -/
def fillAll : Nat → Filling → Except (ValueFault ε) Filling
  | 0, f => .ok f
  | depth + 1, f =>
    if f.pending.isEmpty then .ok f
    else do
      let f ← fillEach inclusion { f with pending := [] } f.pending.reverse
      fillAll depth f

end Inclusion

end Filling

/-- The value of a node. Its number is higher than that of any node in it, so that there are no more
collections to begin. -/
def Node.datum {ε : Type} (inclusion : String → Except ε Datum) (n : Node) :
    Except (ValueFault ε) Datum := do
  let (p, f) ← Filling.empty.part inclusion n
  let f ← Filling.fillAll inclusion (n.number + 1) f
  .ok (p.datum f.shapes (f.shapes.length + 1))

end RamlBridge.Yaml

/-!
Codes of bits of which none begins another: numbers and symbols read from the bits of bytes.
-/
namespace RamlBridge.Packing

/-- Why nothing more can be read: the bits end, or they stand for nothing. -/
inductive BitFault where
  | ended
  | wrong
deriving DecidableEq, Repr

/-- The bits of bytes, the lowest bit of each first. -/
def bitsOf (bytes : List UInt8) : List Bool :=
  bytes.flatMap fun b => (List.range 8).map b.toNat.testBit

def readNumber : Nat → List Bool → Except BitFault (Nat × List Bool)
  | 0, bits => .ok (0, bits)
  | _ + 1, [] => .error .ended
  | width + 1, b :: bits => do
    let (higher, bits) ← readNumber width bits
    .ok (b.toNat + 2 * higher, bits)

/-- Symbols in the order of their codes, and how many have codes of one bit, of two and so on. The
codes of one length follow those of the shorter ones, as numbers whose highest bit is read first. -/
structure PrefixCode where
  counts : List Nat
  symbols : List Nat
deriving DecidableEq, Repr

namespace PrefixCode

/-- The code in which every symbol has a code of a given length, and none where that is zero. -/
def ofLengths (lengths : List Nat) : PrefixCode :=
  let inUse := List.range' 1 (max 1 (lengths.foldl max 0))
  ⟨inUse.map lengths.count,
    inUse.flatMap fun n => (lengths.zipIdx.filter fun p => p.1 = n).map Prod.snd⟩

/-- The codes that are left over when so many of the shorter ones are; none if there are too few. -/
def leftOver? : Nat → List Nat → Option Nat
  | free, [] => some free
  | free, count :: counts => if count ≤ 2 * free then leftOver? (2 * free - count) counts else none

/-- Whether there are as many codes as symbols and no more. -/
def isFull (code : PrefixCode) : Bool := leftOver? 1 code.counts = some 0

/-- Whether a code can be used: it is full, or has at most one symbol, whose code is one bit. -/
def isUsable (code : PrefixCode) : Bool :=
  code.isFull || code.symbols.isEmpty || code.counts = [1]

/-- Reads the place of a symbol: the first code of a length and the place of its symbol are known,
and the bits that are read already. -/
def readPlace (first place bitsRead : Nat) :
    List Nat → List Bool → Except BitFault (Nat × List Bool)
  | [], _ => .error .wrong
  | _ :: _, [] => .error .ended
  | count :: counts, b :: bits =>
    let bitsRead := 2 * bitsRead + b.toNat
    if bitsRead < first + count then .ok (place + (bitsRead - first), bits)
    else readPlace (2 * (first + count)) (place + count) bitsRead counts bits

def read (code : PrefixCode) (bits : List Bool) : Except BitFault (Nat × List Bool) := do
  let (place, bits) ← readPlace 0 0 0 code.counts bits
  .ok (code.symbols.getD place 0, bits)

end PrefixCode

end RamlBridge.Packing

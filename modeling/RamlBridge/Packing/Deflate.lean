import RamlBridge.Packing.PrefixCode

/-!
Packed bytes: blocks of literal bytes and of copies of what came before, in prefix codes. Bytes that
end too early stand for what was unpacked up to there.
-/
namespace RamlBridge.Packing

/-- What was unpacked, and the bits behind it or why there is no more. -/
structure Unpacked where
  bytes : Array UInt8
  rest : Except BitFault (List Bool)

namespace Deflate

/-- The codes of a block: those of bytes, of the end and of the lengths of copies, and those of the
distances to what is copied. -/
structure Codes where
  items : PrefixCode
  distances : PrefixCode

inductive Item where
  | byte (b : UInt8)
  | copy (length distance : Nat)
  | stop

/-- The least length of every symbol for lengths, and the bits that are added to it. -/
def lengthSteps : List (Nat × Nat) :=
  [(3, 0), (4, 0), (5, 0), (6, 0), (7, 0), (8, 0), (9, 0), (10, 0), (11, 1), (13, 1), (15, 1),
    (17, 1), (19, 2), (23, 2), (27, 2), (31, 2), (35, 3), (43, 3), (51, 3), (59, 3), (67, 4),
    (83, 4), (99, 4), (115, 4), (131, 5), (163, 5), (195, 5), (227, 5), (258, 0)]

/-- The least distance of every symbol for distances, and the bits that are added to it. -/
def distanceSteps : List (Nat × Nat) :=
  [(1, 0), (2, 0), (3, 0), (4, 0), (5, 1), (7, 1), (9, 2), (13, 2), (17, 3), (25, 3), (33, 4),
    (49, 4), (65, 5), (97, 5), (129, 6), (193, 6), (257, 7), (385, 7), (513, 8), (769, 8),
    (1025, 9), (1537, 9), (2049, 10), (3073, 10), (4097, 11), (6145, 11), (8193, 12), (12289, 12),
    (16385, 13), (24577, 13)]

/-- Reads what is added to the least size of a symbol. -/
def readSize (steps : List (Nat × Nat)) (symbol : Nat) (bits : List Bool) :
    Except BitFault (Nat × List Bool) :=
  match steps[symbol]? with
  | some (least, width) => (readNumber width bits).map fun p => (least + p.1, p.2)
  | none => .error .wrong

def readItem (codes : Codes) (bits : List Bool) : Except BitFault (Item × List Bool) := do
  let (symbol, bits) ← codes.items.read bits
  if symbol < 256 then .ok (.byte symbol.toUInt8, bits)
  else if symbol = 256 then .ok (.stop, bits)
  else
    let (length, bits) ← readSize lengthSteps (symbol - 257) bits
    let (symbol, bits) ← codes.distances.read bits
    let (distance, bits) ← readSize distanceSteps symbol bits
    .ok (.copy length distance, bits)

/-- Adds so many bytes, each a copy of the one at a distance before it. -/
def copied (distance : Nat) : Nat → Array UInt8 → Array UInt8
  | 0, bytes => bytes
  | length + 1, bytes => copied distance length (bytes.push (bytes.getD (bytes.size - distance) 0))

/-- Unpacks the items of a block; the fuel is above their number. -/
def unpackItems (codes : Codes) : Nat → List Bool → Array UInt8 → Unpacked
  | 0, _, bytes => ⟨bytes, .error .ended⟩
  | fuel + 1, bits, bytes =>
    match readItem codes bits with
    | .error fault => ⟨bytes, .error fault⟩
    | .ok (.stop, bits) => ⟨bytes, .ok bits⟩
    | .ok (.byte b, bits) => unpackItems codes fuel bits (bytes.push b)
    | .ok (.copy length distance, bits) =>
      if distance ≤ bytes.size then unpackItems codes fuel bits (copied distance length bytes)
      else ⟨bytes, .error .wrong⟩

/-- The codes of blocks that bring none of their own. -/
def commonCodes : Codes where
  items := .ofLengths
    (List.replicate 144 8 ++ List.replicate 112 9 ++ List.replicate 24 7 ++ List.replicate 8 8)
  distances := .ofLengths (List.replicate 32 5)

/-- Reads so many lengths of codes behind those that are known, the last of them first. -/
def readLengths (code : PrefixCode) (count : Nat) :
    Nat → List Nat → List Bool → Except BitFault (List Nat × List Bool)
  | 0, _, _ => .error .ended
  | fuel + 1, known, bits =>
    if known.length = count then .ok (known.reverse, bits)
    else do
      let (symbol, bits) ← code.read bits
      if symbol < 16 then readLengths code count fuel (symbol :: known) bits
      else
        let (length?, least, width) :=
          if symbol = 16 then (known.head?, 3, 2)
          else if symbol = 17 then (some 0, 3, 3)
          else (some 0, 11, 7)
        let (more, bits) ← readNumber width bits
        match length? with
        | some length =>
          if count < known.length + (least + more) then .error .wrong
          else readLengths code count fuel (List.replicate (least + more) length ++ known) bits
        | none => .error .wrong

/-- The symbols for lengths of codes in the order in which their own lengths stand. -/
def lengthOrder : List Nat := [16, 17, 18, 0, 8, 7, 9, 6, 10, 5, 11, 4, 12, 3, 13, 2, 14, 1, 15]

def readThrees : Nat → List Bool → Except BitFault (List Nat × List Bool)
  | 0, bits => .ok ([], bits)
  | count + 1, bits => do
    let (n, bits) ← readNumber 3 bits
    let (ns, bits) ← readThrees count bits
    .ok (n :: ns, bits)

/-- The code of the lengths of codes. In one without symbols every bit stands for no code. -/
def lengthCode? (lengths : List Nat) : Option PrefixCode :=
  let lengthOf (symbol : Nat) : Nat := lengths.getD (lengthOrder.idxOf symbol) 0
  let code := PrefixCode.ofLengths ((List.range 19).map lengthOf)
  if code.symbols.isEmpty then some ⟨[2], [0, 0]⟩
  else if code.isFull then some code
  else none

def readCodes (bits : List Bool) : Except BitFault (Codes × List Bool) := do
  let (items, bits) ← readNumber 5 bits
  let (distances, bits) ← readNumber 5 bits
  let (lengths, bits) ← readNumber 4 bits
  if 29 < items || 29 < distances then .error .wrong
  else
    let (lengths, bits) ← readThrees (lengths + 4) bits
    match lengthCode? lengths with
    | none => .error .wrong
    | some code =>
      let count := items + 257 + (distances + 1)
      let (lengths, bits) ← readLengths code count (count + 1) [] bits
      let codes : Codes :=
        ⟨.ofLengths (lengths.take (items + 257)), .ofLengths (lengths.drop (items + 257))⟩
      if lengths.getD 256 0 ≠ 0 && codes.items.isUsable && codes.distances.isUsable then
        .ok (codes, bits)
      else .error .wrong

/-- Adds so many bytes as they stand. -/
def unpackPlain : Nat → List Bool → Array UInt8 → Unpacked
  | 0, bits, bytes => ⟨bytes, .ok bits⟩
  | count + 1, bits, bytes =>
    match readNumber 8 bits with
    | .error fault => ⟨bytes, .error fault⟩
    | .ok (b, bits) => unpackPlain count bits (bytes.push b.toUInt8)

def fromNextByte (bits : List Bool) : List Bool := bits.drop (bits.length % 8)

/-- Unpacks a block of plain bytes: their count and its complement come first. -/
def unpackStored (bits : List Bool) (bytes : Array UInt8) : Unpacked :=
  let counts := do
    let (count, bits) ← readNumber 16 (fromNextByte bits)
    let (complement, bits) ← readNumber 16 bits
    if count + complement = 0xffff then Except.ok (count, bits) else .error .wrong
  match counts with
  | .error fault => ⟨bytes, .error fault⟩
  | .ok (count, bits) => unpackPlain count bits bytes

def unpackBlock (kind : Nat) (bits : List Bool) (bytes : Array UInt8) : Unpacked :=
  match kind with
  | 0 => unpackStored bits bytes
  | 1 => unpackItems commonCodes (bits.length + 1) bits bytes
  | 2 =>
    match readCodes bits with
    | .error fault => ⟨bytes, .error fault⟩
    | .ok (codes, bits) => unpackItems codes (bits.length + 1) bits bytes
  | _ => ⟨bytes, .error .wrong⟩

/-- Unpacks blocks up to the one that is marked as the last; the fuel is above their number. -/
def unpackBlocks : Nat → List Bool → Array UInt8 → Unpacked
  | 0, _, bytes => ⟨bytes, .error .ended⟩
  | fuel + 1, bits, bytes =>
    match readNumber 3 bits with
    | .error fault => ⟨bytes, .error fault⟩
    | .ok (head, bits) =>
      let block := unpackBlock (head / 2) bits bytes
      match block.rest with
      | .error _ => block
      | .ok rest => if head % 2 = 1 then block else unpackBlocks fuel rest block.bytes

def unpack (bytes : List UInt8) : Unpacked :=
  let bits := bitsOf bytes
  unpackBlocks (bits.length + 1) bits #[]

/-- The sums of the bytes and of those sums, modulo the largest prime number of sixteen bits. -/
def checksum (bytes : Array UInt8) : Nat :=
  let (a, b) :=
    bytes.foldl (fun (a, b) x => ((a + x.toNat) % 65521, (b + a + x.toNat) % 65521)) (1, 0)
  b * 0x10000 + a

/-- Whether the checksum behind the last block is another than that of the bytes. -/
def isContradicted (u : Unpacked) : Bool :=
  match u.rest with
  | .error fault => fault = .wrong
  | .ok bits =>
    let digits := (List.range 4).mapM fun i => readNumber 8 ((fromNextByte bits).drop (8 * i))
    match digits with
    | .error _ => false
    | .ok digits => digits.foldl (fun n d => n * 256 + d.1) 0 ≠ checksum u.bytes

/-- The bytes behind a header of two bytes and before a checksum; none if they are not of that
form. A header that asks for a dictionary is not followed. -/
def wrapped? (bytes : List UInt8) : Option (Array UInt8) :=
  match bytes with
  | a :: b :: rest =>
    let (a, b) := (a.toNat, b.toNat)
    if (a * 256 + b) % 31 ≠ 0 || a % 16 ≠ 8 || 7 < a / 16 then none
    else if b.testBit 5 then if rest.length < 4 then some #[] else none
    else
      let u := unpack rest
      if isContradicted u then none else some u.bytes
  | _ => some #[]

def bytes? (bytes : List UInt8) : Option (List UInt8) :=
  match wrapped? bytes with
  | some bytes => some bytes.toList
  | none =>
    let u := unpack bytes
    match u.rest with
    | .error .wrong => none
    | _ => some u.bytes.toList

end Deflate

end RamlBridge.Packing

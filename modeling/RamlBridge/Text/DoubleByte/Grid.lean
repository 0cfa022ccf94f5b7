import RamlBridge.Text.Pieces

/-!
Texts in which one character takes several bytes: tables of characters, and the reading of bytes one
character after the other.
-/
namespace RamlBridge.Text

def replacement : Char := Char.ofNat 0xfffd

namespace DoubleByte

/-- Characters by number, in lines of as many each; the replacement character fills the gaps. -/
structure Grid where
  lines : List String

def Grid.lineLength : Nat := 92

def Grid.get? (g : Grid) (i : Nat) : Option Char :=
  (g.lines[i / Grid.lineLength]?).bind fun line =>
    (line.toList[i % Grid.lineLength]?).filter (· != replacement)

def isWithin (ranges : List (Nat × Nat)) (n : Nat) : Bool :=
  ranges.any fun r => r.1 ≤ n && n ≤ r.2

/-- The character with a number in runs, each given by its first and last number and its first
character. -/
def inRuns? (runs : List (Nat × Nat × Nat)) (n : Nat) : Option Char :=
  (runs.find? fun r => r.1 ≤ n && n ≤ r.2.1).map fun r => Char.ofNat (r.2.2 + (n - r.1))

/-- What the first bytes of a text are: characters in so many bytes, or a character that is cut off
by the end of the text; or the first byte begins none. -/
inductive Reading where
  | read (cs : List Char) (length : Nat)
  | cut
  | wrong
deriving DecidableEq, Repr

namespace Reading

def plain (b : UInt8) : Reading := .read [Char.ofNat b.toNat] 1

def ofChar? (c : Option Char) (length : Nat) : Reading :=
  match c with
  | some c => .read [c] length
  | none => .wrong

end Reading

/-- Reads a character in one byte or in two; plain bytes stand for themselves. -/
def readPair (single : Nat → Option Char) (pair : Nat → Nat → Option (List Char))
    (bytes : List UInt8) : Reading :=
  match bytes with
  | [] => .cut
  | a :: rest =>
    if a < 0x80 then .plain a
    else
      match single a.toNat, rest with
      | some c, _ => .read [c] 1
      | none, [] => .cut
      | none, b :: _ =>
        match pair a.toNat b.toNat with
        | some cs => .read cs 2
        | none => .wrong

/-- The text of bytes, with a replacement for each that begins no character and for what is cut off;
at most so many characters. -/
def decodeWith (next : List UInt8 → Reading) : Nat → List UInt8 → List Char
  | 0, _ => []
  | _, [] => []
  | fuel + 1, b :: rest =>
    match next (b :: rest) with
    | .read cs length => cs ++ decodeWith next fuel ((b :: rest).drop length)
    | .cut => [replacement]
    | .wrong => replacement :: decodeWith next fuel rest

end DoubleByte

end RamlBridge.Text

import RamlBridge.Text.DoubleByte.Grid
import RamlBridge.Text.Surrogate

/-!
Texts of plain characters, in which other characters stand in sections: a plus sign and digits of
six bits each.
-/
namespace RamlBridge.Text.Utf7

def digit? (b : UInt8) : Option Nat :=
  let c := Char.ofNat b.toNat
  if c.isUpper then some (c.toNat - 'A'.toNat)
  else if c.isLower then some (c.toNat - 'a'.toNat + 26)
  else if c.isDigit then some (c.toNat - '0'.toNat + 52)
  else if c = '+' then some 62
  else if c = '/' then some 63
  else none

/-- What a section holds: units of sixteen bits and the bits that are left over. -/
structure Section where
  units : List Nat
  leftOver : Nat
  width : Nat
deriving DecidableEq, Repr

def Section.ofDigits (digits : List Nat) : Section :=
  let n := digits.foldl (fun n d => n * 64 + d) 0
  let count := 6 * digits.length / 16
  let width := 6 * digits.length % 16
  { units := (List.range count).reverse.map fun i => (n >>> (width + 16 * i)) % 0x10000
    leftOver := n % (1 <<< width)
    width }

def Section.isCut (s : Section) : Bool := 6 ≤ s.width || s.leftOver ≠ 0

def isFirstHalf (n : Nat) : Bool := 0xd800 ≤ n && n < 0xdc00

/-- The characters of units, and a first half at the end that waits for the second. -/
def textOf : List Nat → List Char × Option Char
  | [] => ([], none)
  | [n] => if isFirstHalf n then ([], some (ofCode n)) else ([ofCode n], none)
  | n :: m :: rest =>
    if isFirstHalf n && (0xdc00 ≤ m && m < 0xe000) then
      let (cs, waiting) := textOf rest
      (Char.ofNat (0x10000 + (n - 0xd800) * 0x400 + (m - 0xdc00)) :: cs, waiting)
    else
      let (cs, waiting) := textOf (m :: rest)
      (ofCode n :: cs, waiting)

/-- The text of bytes, with a replacement where they stand for nothing; at most so many steps. A
section that is cut takes the byte behind it along, and a hyphen behind a section belongs to it. -/
def decodeWithin : Nat → List UInt8 → List Char
  | 0, _ => []
  | _, [] => []
  | fuel + 1, b :: rest =>
    if b ≠ 0x2b then
      (if b < 0x80 then Char.ofNat b.toNat else replacement) :: decodeWithin fuel rest
    else
      let digits := (rest.takeWhile fun b => (digit? b).isSome).filterMap digit?
      let s := Section.ofDigits digits
      let (cs, waiting) := textOf s.units
      match digits, rest.dropWhile fun b => (digit? b).isSome with
      | [], [] => []
      | [], next :: after =>
        (if next = 0x2d then '+' else replacement) :: decodeWithin fuel after
      | _, [] => cs ++ if s.isCut || waiting.isSome then [replacement] else []
      | _, next :: after =>
        if s.isCut then cs ++ replacement :: decodeWithin fuel after
        else
          cs ++ (if next < 0x80 then waiting.toList else []) ++
            decodeWithin fuel (if next = 0x2d then after else next :: after)

def decode (bytes : List UInt8) : List Char := decodeWithin bytes.length bytes

end RamlBridge.Text.Utf7

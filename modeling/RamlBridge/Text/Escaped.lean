import RamlBridge.Text.DoubleByte.Grid
import RamlBridge.Text.Hex
import RamlBridge.Text.Surrogate

/-!
Texts in which characters stand by their codes behind a backslash.
-/
namespace RamlBridge.Text.Escaped

/-- Reads a code of so many hexadecimal digits: its character, or a replacement for the digits that
are there. -/
def readCode (width : Nat) (cs : List Char) : Char × List Char :=
  let digits := (cs.take width).takeWhile fun c => (hexValue? c).isSome
  let c :=
    match hexNumber? digits with
    | some n => if digits.length = width ∧ n < 0x110000 then ofCode n else replacement
    | none => replacement
  (c, cs.drop digits.length)

/-- What is left behind a name in braces; the names of characters are not known. -/
def behindName : List Char → List Char
  | '\x7b' :: '\x7d' :: rest => '\x7d' :: rest
  | '\x7b' :: rest => (rest.dropWhile (· ≠ '\x7d')).drop 1
  | rest => rest

/-- The characters of control behind a backslash, by the letters for them. -/
def controls : List (Char × Nat) :=
  [('a', 7), ('b', 8), ('t', 9), ('n', 10), ('v', 11), ('f', 12), ('r', 13)]

def isOctal (c : Char) : Bool := '0' ≤ c && c ≤ '7'

def readEscape : List Char → List Char × List Char
  | [] => ([replacement], [])
  | '\n' :: rest => ([], rest)
  | 'x' :: rest => (readCode 2 rest).map ([·]) id
  | 'u' :: rest => (readCode 4 rest).map ([·]) id
  | 'U' :: rest => (readCode 8 rest).map ([·]) id
  | 'N' :: rest => ([replacement], behindName rest)
  | c :: rest =>
    if ['\\', '\'', '"'].contains c then ([c], rest)
    else if isOctal c then
      let digits := c :: (rest.take 2).takeWhile isOctal
      let n := digits.foldl (fun n d => n * 8 + (d.toNat - '0'.toNat)) 0
      ([Char.ofNat n], rest.drop (digits.length - 1))
    else
      match controls.find? fun p => p.1 = c with
      | some p => ([Char.ofNat p.2], rest)
      | none => (['\\', c], rest)

/-- Reads what stands behind a backslash, where only the long codes are known. -/
def readLongCode : List Char → List Char × List Char
  | [] => (['\\'], [])
  | 'u' :: rest => (readCode 4 rest).map ([·]) id
  | 'U' :: rest => (readCode 8 rest).map ([·]) id
  | c :: rest => (['\\', c], rest)

/-- The text of characters, with what stands behind each backslash read; at most so many steps. -/
def decodeWith (read : List Char → List Char × List Char) : Nat → List Char → List Char
  | 0, _ => []
  | _, [] => []
  | fuel + 1, c :: rest =>
    if c = '\\' then
      let (cs, rest) := read rest
      cs ++ decodeWith read fuel rest
    else c :: decodeWith read fuel rest

/-- The text of bytes, of which each stands for the character with its number. -/
def decode (onlyLongCodes : Bool) (bytes : List UInt8) : List Char :=
  decodeWith (if onlyLongCodes then readLongCode else readEscape) bytes.length
    (bytes.map fun b => Char.ofNat b.toNat)

end RamlBridge.Text.Escaped

import RamlBridge.Decimal.Numeral
import RamlBridge.Text.Hex
import RamlBridge.Text.Case
import RamlBridge.Text.Pieces
import RamlBridge.Yaml.Tag

/-!
The values of scalars by their tags.
-/
namespace RamlBridge.Yaml

/-- Why the text of a scalar has no value of its tag. A date is no part of a mapping, and a number
has no more groups of sixty than have a weight. -/
inductive ScalarFault where
  | number
  | overflow
  | date
  | emptyNumber
  | word
  | notDate
  | mappedDate
deriving DecidableEq, Repr, Inhabited

/-- The integer of digits in a base, with a sign and the prefix of the base or without. -/
def integerIn? (base : Nat) (letter : Char) (cs : List Char) : Option Int :=
  let (negative, cs) := Decimal.splitSign (Text.trimChars Decimal.isSpace cs)
  let cs := match cs with
    | '0' :: l :: rest => if l.toLower = letter then rest else cs
    | _ => cs
  let digit (c : Char) : Option Nat :=
    match (Text.digitValue? c).orElse fun _ => Text.hexValue? c with
    | some d => if d < base then some d else none
    | none => none
  if cs.isEmpty then none
  else
    (cs.foldl (fun n c => match n, digit c with
      | some n, some d => some (base * n + d)
      | _, _ => none) (some 0)).map (Decimal.signed negative)

def integerOrFault (n : Option Int) : Except ScalarFault Int :=
  match n with
  | some n => .ok n
  | none => .error .number

/-- An integer of groups that each count sixty of the next. -/
def sixtiesInteger (cs : List Char) : Except ScalarFault Int := do
  let parts ← (Text.split ':' cs).mapM fun p =>
    integerOrFault (Decimal.integerOfScripts? (String.ofList p))
  .ok (parts.foldl (fun n p => 60 * n + p) 0)

def integerValue (text : String) : Except ScalarFault Int :=
  let cs := Decimal.withoutUnderscores text.toList
  if cs.isEmpty then .error .emptyNumber
  else
    let negative := cs.head? == some '-'
    let unsigned := Tag.dropSign cs
    let magnitude : Except ScalarFault Int :=
      match unsigned with
      | [] => .error .emptyNumber
      | ['0'] => .ok 0
      | '0' :: 'b' :: digits => integerOrFault (integerIn? 2 'b' digits)
      | '0' :: 'x' :: digits => integerOrFault (integerIn? 16 'x' digits)
      | '0' :: _ => integerOrFault (integerIn? 8 'o' unsigned)
      | _ =>
        if unsigned.contains ':' then sixtiesInteger unsigned
        else integerOrFault (Decimal.integerOfScripts? (String.ofList unsigned))
    magnitude.map fun n => if negative then -n else n

def realOf (cs : List Char) : Except ScalarFault Binary64 :=
  let plain := (Text.trimChars Decimal.isSpace cs).map fun c =>
    match Text.digitValue? c with
    | some d => Decimal.digitChar d
    | none => c
  match Decimal.realOf? plain with
  | some x => .ok x
  | none => .error .number

/-- A sum with groups added to it, of which each counts sixty of the one before. -/
def addSixties (sum : Binary64) (unit : Nat) : List Binary64 → Except ScalarFault Binary64
  | [] => .ok sum
  | x :: rest =>
    let weight := Binary64.ofNat unit
    if weight.isFinite then addSixties (sum.add (x.mul weight)) (unit * 60) rest
    else .error .overflow

/-- A number of groups that each count sixty of the next, added up from the last group on. -/
def sixtiesReal (cs : List Char) : Except ScalarFault Binary64 := do
  let parts ← (Text.split ':' cs).mapM realOf
  addSixties (Binary64.zero false) 1 parts.reverse

def realCharacters (text : String) : List Char :=
  (Text.lower (String.ofList (Decimal.withoutUnderscores text.toList))).toList

def isNoNumberWord (text : String) : Bool :=
  Tag.dropSign (realCharacters text) = ".nan".toList

def realValue (text : String) : Except ScalarFault Binary64 :=
  let cs := realCharacters text
  if cs.isEmpty then .error .emptyNumber
  else
    let negative := cs.head? == some '-'
    let unsigned := Tag.dropSign cs
    let magnitude : Except ScalarFault Binary64 :=
      if unsigned = ".inf".toList then .ok (.infinity false)
      else if unsigned = ".nan".toList then .ok .nan
      else if unsigned.contains ':' then sixtiesReal unsigned
      else realOf unsigned
    magnitude.map fun x => if negative then x.neg else x

/-- The value of a character of an encoding of bytes, six bits each. -/
def sixBits? (c : Char) : Option Nat :=
  if 'A' ≤ c ∧ c ≤ 'Z' then some (c.toNat - 'A'.toNat)
  else if 'a' ≤ c ∧ c ≤ 'z' then some (c.toNat - 'a'.toNat + 26)
  else if '0' ≤ c ∧ c ≤ '9' then some (c.toNat - '0'.toNat + 52)
  else if c = '+' then some 62
  else if c = '/' then some 63
  else none

/-- The bytes of an encoding of six bits a character. Other characters do not count; signs of
padding end it where they fill up a group. The state is how many characters of a group were read,
what is left of their bits, and how many signs of padding stand in a row. -/
def decodeBytes : Nat → Nat → Nat → List Char → Option (List UInt8)
  | group, _, _, [] => if group = 0 then some [] else none
  | group, bits, pads, c :: rest =>
    if c = '=' then
      if 2 ≤ group ∧ 4 ≤ group + pads + 1 then some []
      else decodeBytes group bits (if 2 ≤ group then pads + 1 else pads) rest
    else
      match sixBits? c with
      | none => decodeBytes group bits pads rest
      | some v =>
        match group with
        | 0 => decodeBytes 1 v 0 rest
        | 1 => (decodeBytes 2 (v % 16) 0 rest).map (UInt8.ofNat (bits * 4 + v / 16) :: ·)
        | 2 => (decodeBytes 3 (v % 4) 0 rest).map (UInt8.ofNat (bits * 16 + v / 4) :: ·)
        | _ => (decodeBytes 0 0 0 rest).map (UInt8.ofNat (bits * 64 + v) :: ·)

def booleanValue (text : String) : Except ScalarFault Bool :=
  match Tag.booleanWords.find? (·.1 == Text.lower text) with
  | some p => .ok p.2
  | none => .error .word

def timestampValue (text : String) : Except ScalarFault Scalar :=
  match Timestamp.parse? (Tag.withoutLastBreak text.toList) with
  | none => .error .notDate
  | some t =>
    match t.value? with
    | some s => .ok s
    | none => .error .date

/-- The value of a text under a tag of scalars, or why it has none; nothing if the tag is none of
these, or if the text is no encoding of bytes. -/
def scalarValue? (tag text : String) : Option (Except ScalarFault Scalar) :=
  if tag = Tag.text then some (.ok (.text text))
  else if tag = Tag.null then some (.ok .null)
  else if tag = Tag.bool then some ((booleanValue text).map .bool)
  else if tag = Tag.int then some ((integerValue text).map .int)
  else if tag = Tag.float then some ((realValue text).map .float)
  else if tag = Tag.timestamp then some (timestampValue text)
  else if tag = Tag.binary && text.toList.all (·.toNat < 0x80) then
    (decodeBytes 0 0 0 text.toList).map fun content => .ok (.bytes content)
  else none

end RamlBridge.Yaml

import RamlBridge.Json.Basic
import RamlBridge.Decimal.Digits
import RamlBridge.Text.Hex
import RamlBridge.Text.Surrogate

/-!
Reading a JSON value from its text. A fault is told by its kind and by how much of the text is
left where it was found.
-/
namespace RamlBridge.Json

inductive SyntaxFault where
  | value
  | name
  | colon
  | comma
  | extraText
  | openText
  | controlCharacter
  | escape
  | codeEscape
  | byteOrderMark
  | integerTooLong
deriving DecidableEq, Repr, Inhabited

def SyntaxFault.text : SyntaxFault → String
  | .value => "Expecting value"
  | .name => "Expecting property name enclosed in double quotes"
  | .colon => "Expecting ':' delimiter"
  | .comma => "Expecting ',' delimiter"
  | .extraText => "Extra data"
  | .openText => "Unterminated string starting at"
  | .controlCharacter => "Invalid control character at"
  | .escape => "Invalid \\escape"
  | .codeEscape => "Invalid \\uXXXX escape"
  | .byteOrderMark => "Unexpected UTF-8 BOM (decode using utf-8-sig)"
  | .integerTooLong => "Exceeds the limit (4300 digits) for integer string conversion"

/-- A fault with the count of the characters from there to the end of the text. -/
structure ReadFault where
  fault : SyntaxFault
  remaining : Nat
deriving DecidableEq, Repr, Inhabited

namespace ReadFault

/-- The message of a fault in a text: what was found, and where by line, column and offset. -/
def message (text : String) (f : ReadFault) : String :=
  let cs := text.toList
  let offset := cs.length - f.remaining
  let before := cs.take offset
  let line := before.count '\n' + 1
  let column := (before.reverse.takeWhile (· != '\n')).length + 1
  f.fault.text ++ ": line " ++ Decimal.text line ++ " column " ++ Decimal.text column ++
    " (char " ++ Decimal.text offset ++ ")"

end ReadFault

def faultAt {α : Type} (fault : SyntaxFault) (rest : List Char) : Except ReadFault α :=
  .error ⟨fault, rest.length⟩

def isBlank (c : Char) : Bool :=
  c == ' ' || c == '\t' || c == '\n' || c == '\r'

def skipBlanks (cs : List Char) : List Char :=
  cs.dropWhile isBlank

def codeUnit? (a b c d : Char) : Option Nat :=
  match Text.hexValue? a, Text.hexValue? b, Text.hexValue? c, Text.hexValue? d with
  | some a, some b, some c, some d => some (((a * 16 + b) * 16 + c) * 16 + d)
  | _, _, _, _ => none

/-- The character that two code units denote together, if they are a pair of surrogates. -/
def pairChar? (high low : Nat) : Option Char :=
  if 0xd800 ≤ high ∧ high < 0xdc00 ∧ 0xdc00 ≤ low ∧ low < 0xe000 then
    some (Char.ofNat (0x10000 + (high - 0xd800) * 0x400 + (low - 0xdc00)))
  else none

def joinUnits : List Nat → List Char
  | [] => []
  | [n] => [Text.ofCode n]
  | n :: m :: rest =>
    match pairChar? n m with
    | some c => c :: joinUnits rest
    | none => Text.ofCode n :: joinUnits (m :: rest)

def shortEscape? (c : Char) : Option Char :=
  if c == '"' || c == '\\' || c == '/' then some c
  else if c == 'b' then some '\x08'
  else if c == 'f' then some '\x0c'
  else if c == 'n' then some '\n'
  else if c == 'r' then some '\r'
  else if c == 't' then some '\t'
  else none

def consUnit (n : Nat) (tail : Except ReadFault (List Nat × List Char)) :
    Except ReadFault (List Nat × List Char) :=
  tail.map fun p => (n :: p.1, p.2)

/-- Reads the code units of a text after its opening quote up to its closing one. The four digits
of an escape count only if a character follows them. -/
def textBody (opening : Nat) : List Char → Except ReadFault (List Nat × List Char)
  | [] => .error ⟨.openText, opening⟩
  | '"' :: rest => .ok ([], rest)
  | '\\' :: rest =>
    match rest with
    | [] => .error ⟨.openText, opening⟩
    | 'u' :: a :: b :: c :: d :: more =>
      match codeUnit? a b c d, more with
      | some n, _ :: _ => consUnit n (textBody opening more)
      | _, _ => faultAt .codeEscape rest
    | 'u' :: _ => faultAt .codeEscape rest
    | e :: more =>
      match shortEscape? e with
      | some c => consUnit c.toNat (textBody opening more)
      | none => faultAt .escape ('\\' :: rest)
  | c :: rest =>
    if c.toNat < 0x20 then faultAt .controlCharacter (c :: rest)
    else consUnit c.toNat (textBody opening rest)

/-- Reads a text after its opening quote. -/
def quotedBody (opening : Nat) (cs : List Char) : Except ReadFault (String × List Char) :=
  (textBody opening cs).map fun p => (String.ofList (joinUnits p.1), p.2)

/-- The digits after a point, if a point and a digit stand first. -/
def fraction : List Char → Option (List Char × List Char)
  | '.' :: d :: rest =>
    if d.isDigit then
      some ((d :: rest).takeWhile Char.isDigit, (d :: rest).dropWhile Char.isDigit)
    else none
  | _ => none

/-- The exponent that stands first, if its letter is followed by a digit, with or without a sign
in between. -/
def exponent : List Char → Option (Int × List Char)
  | e :: rest =>
    if e == 'e' || e == 'E' then
      let (negative, ds) : Bool × List Char := match rest with
        | '-' :: r => (true, r)
        | '+' :: r => (false, r)
        | r => (false, r)
      match ds.takeWhile Char.isDigit with
      | [] => none
      | digits =>
        let n : Int := Decimal.ofDigits digits
        some (if negative then -n else n, ds.dropWhile Char.isDigit)
    else none
  | [] => none

/-- A number from its sign, the digits before the point and the text behind them. -/
def numberTail (negative : Bool) (whole rest : List Char) : Except ReadFault (Json × List Char) :=
  let (places, rest') := (fraction rest).getD ([], rest)
  match exponent rest', places with
  | none, [] =>
    if whole.length > Decimal.mostDigits then faultAt .integerTooLong rest
    else
      let n : Int := Decimal.ofDigits whole
      .ok (.int (if negative then -n else n), rest)
  | scale, _ =>
    let (power, rest'') := scale.getD (0, rest')
    let digits := (whole ++ places).dropWhile (· == '0')
    .ok (.float (.ofDecimal negative (Decimal.ofDigits digits) digits.length
      (power - places.length)), rest'')

def number (cs : List Char) : Except ReadFault (Json × List Char) :=
  let (negative, unsigned) : Bool × List Char := match cs with
    | '-' :: rest => (true, rest)
    | _ => (false, cs)
  match unsigned with
  | '0' :: rest => numberTail negative ['0'] rest
  | c :: _ =>
    if c.isDigit then
      numberTail negative (unsigned.takeWhile Char.isDigit) (unsigned.dropWhile Char.isDigit)
    else faultAt .value cs
  | [] => faultAt .value cs

mutual

/-- Reads a value. Each step costs one unit of fuel. -/
def value : Nat → List Char → Except ReadFault (Json × List Char)
  | 0, cs => faultAt .value cs
  | fuel + 1, cs =>
    match cs with
    | '"' :: rest => (quotedBody cs.length rest).map fun p => (.text p.1, p.2)
    | '[' :: rest =>
      match skipBlanks rest with
      | ']' :: rest => .ok (.array [], rest)
      | rest => (items fuel rest).map fun p => (.array p.1, p.2)
    | '\x7b' :: rest =>
      match skipBlanks rest with
      | '\x7d' :: rest => .ok (.object [], rest)
      | rest => (members fuel rest).map fun p => (.object (Entries.ofList p.1), p.2)
    | 'n' :: 'u' :: 'l' :: 'l' :: rest => .ok (.null, rest)
    | 't' :: 'r' :: 'u' :: 'e' :: rest => .ok (.bool true, rest)
    | 'f' :: 'a' :: 'l' :: 's' :: 'e' :: rest => .ok (.bool false, rest)
    | 'N' :: 'a' :: 'N' :: rest => .ok (.float .nan, rest)
    | 'I' :: 'n' :: 'f' :: 'i' :: 'n' :: 'i' :: 't' :: 'y' :: rest =>
      .ok (.float (.infinity false), rest)
    | '-' :: 'I' :: 'n' :: 'f' :: 'i' :: 'n' :: 'i' :: 't' :: 'y' :: rest =>
      .ok (.float (.infinity true), rest)
    | _ => number cs

def items : Nat → List Char → Except ReadFault (List Json × List Char)
  | 0, cs => faultAt .value cs
  | fuel + 1, cs => do
    let (x, rest) ← value fuel cs
    match skipBlanks rest with
    | ']' :: rest => .ok ([x], rest)
    | ',' :: rest =>
      let (xs, rest) ← items fuel (skipBlanks rest)
      .ok (x :: xs, rest)
    | rest => faultAt .comma rest

def members : Nat → List Char → Except ReadFault (List (String × Json) × List Char)
  | 0, cs => faultAt .value cs
  | fuel + 1, cs =>
    match cs with
    | '"' :: rest => do
      let (name, rest) ← quotedBody cs.length rest
      match skipBlanks rest with
      | ':' :: rest =>
        let (x, rest) ← value fuel (skipBlanks rest)
        match skipBlanks rest with
        | '\x7d' :: rest => .ok ([(name, x)], rest)
        | ',' :: rest =>
          let (xs, rest) ← members fuel (skipBlanks rest)
          .ok ((name, x) :: xs, rest)
        | rest => faultAt .comma rest
      | rest => faultAt .colon rest
    | _ => faultAt .name cs

end

def parseChars (cs : List Char) : Except ReadFault Json :=
  if cs.head? = some (Char.ofNat 0xfeff) then faultAt .byteOrderMark cs
  else do
    let (x, rest) ← value (2 * cs.length + 2) (skipBlanks cs)
    match skipBlanks rest with
    | [] => .ok x
    | rest => faultAt .extraText rest

def parse (text : String) : Except ReadFault Json :=
  parseChars text.toList

end RamlBridge.Json

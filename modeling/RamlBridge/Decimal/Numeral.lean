import RamlBridge.Decimal.Binary64
import RamlBridge.Decimal.Digits
import RamlBridge.Text.Blank
import RamlBridge.Text.Digit

/-!
Numbers read from text that people write: blanks around them, and single underscores between the
digits.
-/
namespace RamlBridge.Decimal

/-- White space, and nothing else that separates information. -/
def isSpace (c : Char) : Bool :=
  Text.isBlank c && !(0x1c ≤ c.toNat && c.toNat ≤ 0x1f)

/-- Whether every underscore stands alone between two other characters. -/
def underscoresFit : List Char → Bool
  | [] => true
  | cs => cs.head? != some '_' && cs.getLast? != some '_' &&
    (cs.zip cs.tail).all fun p => !(p.1 == '_' && p.2 == '_')

def withoutUnderscores (cs : List Char) : List Char :=
  cs.filter (· != '_')

def splitSign : List Char → Bool × List Char
  | '-' :: rest => (true, rest)
  | '+' :: rest => (false, rest)
  | cs => (false, cs)

def signed (negative : Bool) (n : Nat) : Int :=
  if negative then -(n : Int) else n

def integerOfScripts? (s : String) : Option Int :=
  let (negative, cs) := splitSign (Text.trimChars isSpace s.toList)
  let digits := (withoutUnderscores cs).map Text.digitValue?
  if digits.isEmpty || !underscoresFit cs || digits.length > mostDigits then none
  else
    (digits.foldl (fun n d => match n, d with
      | some n, some d => some (10 * n + d)
      | _, _ => none) (some 0)).map (signed negative)

inductive NumeralFault where
  | unreadable
  | tooLong
deriving DecidableEq, Repr

/-- A numeral without the zeros and underscores before its first digit that counts. One zero
stays if nothing else is there, or in front of a point. -/
def withoutLeadingZeros : List Char → List Char
  | '0' :: '.' :: rest => '0' :: '.' :: rest
  | '0' :: rest =>
    match rest.dropWhile fun c => c == '0' || c == '_' with
    | [] => [rest.getLastD '0']
    | '.' :: places => '0' :: '.' :: places
    | digits => digits
  | cs => cs

/-- The digits before a point after which only zeros stand, at least one of them. -/
def withoutZeroFraction (cs : List Char) : List Char :=
  match cs.dropWhile (· != '.') with
  | '.' :: places =>
    if !places.isEmpty && places.all (· == '0') then cs.takeWhile (· != '.') else cs
  | _ => cs

/-- The integer that ASCII digits denote. A negative one has no leading zeros. -/
def readInteger (s : String) : Except NumeralFault Int :=
  let cs := Text.trimChars isSpace s.toList
  let (negative, unsigned) := splitSign cs
  let body := withoutZeroFraction (if negative then unsigned else withoutLeadingZeros unsigned)
  let digits := withoutUnderscores body
  if body.isEmpty || !underscoresFit (if negative then '-' :: body else body) ||
      !digits.all Char.isDigit || (negative && digits.head? == some '0' && digits.length > 1) then
    .error .unreadable
  else if digits.length > mostDigits then .error .tooLong
  else .ok (signed negative (ofDigits digits))

def exponentOf? : List Char → Option Int
  | [] => some 0
  | c :: rest =>
    let (negative, digits) := splitSign rest
    if (c == 'e' || c == 'E') && !digits.isEmpty && digits.all Char.isDigit then
      some (signed negative (ofDigits digits))
    else none

/-- The number that a numeral without underscores denotes: digits with a point and an exponent,
or a name for an infinity or for no number. -/
def realOf? (cs : List Char) : Option Binary64 :=
  let (negative, unsigned) := splitSign cs
  let name := String.ofList (unsigned.map Char.toLower)
  if name = "inf" ∨ name = "infinity" then some (.infinity negative)
  else if name = "nan" then some .nan
  else
    let whole := unsigned.takeWhile Char.isDigit
    let rest := unsigned.dropWhile Char.isDigit
    let (places, rest) := match rest with
      | '.' :: r => (r.takeWhile Char.isDigit, r.dropWhile Char.isDigit)
      | r => ([], r)
    if whole.isEmpty && places.isEmpty then none
    else
      (exponentOf? rest).map fun power =>
        let digits := (whole ++ places).dropWhile (· == '0')
        .ofDecimal negative (ofDigits digits) digits.length (power - places.length)

/-- The number that a text denotes, with underscores only if no blanks stand around it. -/
def readReal? (s : String) : Option Binary64 :=
  match realOf? (Text.trimChars isSpace s.toList) with
  | some x => some x
  | none =>
    if underscoresFit s.toList then realOf? (withoutUnderscores s.toList) else none

end RamlBridge.Decimal

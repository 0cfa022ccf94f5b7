import RamlBridge.Datum.Basic
import RamlBridge.Decimal.Digits

/-!
Dates and times as they are written in a document.
-/
namespace RamlBridge.Yaml

/-- The parts of a written date: year, month and day, and the time of day and the zone if they are
there. The zone is its sign with hours and minutes, or universal time. -/
structure Timestamp where
  date : Date
  clock : Option Clock
  zone : Option (Bool × Nat × Nat)
deriving DecidableEq, Repr

namespace Timestamp

def number (cs : List Char) : Nat := Decimal.ofDigits cs

def twoDigits : List Char → Option (Nat × List Char)
  | a :: b :: rest => if a.isDigit && b.isDigit then some (number [a, b], rest) else none
  | _ => none

def oneOrTwoDigits : List Char → Option (Nat × List Char)
  | a :: b :: rest =>
    if a.isDigit then
      if b.isDigit then some (number [a, b], rest) else some (number [a], b :: rest)
    else none
  | [a] => if a.isDigit then some (number [a], []) else none
  | [] => none

def after (c : Char) : List Char → Option (List Char)
  | d :: rest => if d = c then some rest else none
  | [] => none

def skipBlanks (cs : List Char) : List Char :=
  cs.dropWhile fun c => c == ' ' || c == '\t'

/-- The millionths of a fraction, cut off behind the sixth digit. -/
def micros (digits : List Char) : Nat :=
  number ((digits ++ List.replicate 6 '0').take 6)

/-- The zone at the end: hours with minutes or without, a letter, or nothing. -/
def zone? (cs : List Char) : Option (Option (Bool × Nat × Nat)) :=
  match skipBlanks cs with
  | [] => if cs.isEmpty then some none else none
  | ['Z'] => some (some (false, 0, 0))
  | sign :: rest =>
    if sign == '+' || sign == '-' then do
      let (hours, rest) ← oneOrTwoDigits rest
      if rest.isEmpty then some (some (sign == '-', hours, 0))
      else
        let (minutes, rest) ← twoDigits (← after ':' rest)
        if rest.isEmpty then some (some (sign == '-', hours, minutes)) else none
    else none

def clock? (cs : List Char) : Option (Clock × List Char) := do
  let (hour, rest) ← oneOrTwoDigits cs
  let (minute, rest) ← twoDigits (← after ':' rest)
  let (second, rest) ← twoDigits (← after ':' rest)
  match rest with
  | '.' :: places =>
    some (⟨hour, minute, second, micros (places.takeWhile Char.isDigit)⟩,
      places.dropWhile Char.isDigit)
  | _ => some (⟨hour, minute, second, 0⟩, rest)

/-- What follows the mark or the blanks between a date and a time. -/
def afterDate : List Char → Option (List Char)
  | 'T' :: rest | 't' :: rest => some rest
  | c :: rest => if c == ' ' || c == '\t' then some (skipBlanks rest) else none
  | [] => none

def parse? (cs : List Char) : Option Timestamp := do
  let (century, rest) ← twoDigits cs
  let (year, rest) ← twoDigits rest
  let (month, rest) ← oneOrTwoDigits (← after '-' rest)
  let (day, rest) ← oneOrTwoDigits (← after '-' rest)
  let date : Date := ⟨100 * century + year, month, day⟩
  if rest.isEmpty then some ⟨date, none, none⟩
  else
    let (clock, rest) ← clock? (← afterDate rest)
    some ⟨date, some clock, ← zone? rest⟩

def offset (z : Bool × Nat × Nat) : Int :=
  let n : Int := 3600 * z.2.1 + 60 * z.2.2
  if z.1 then -n else n

/-- The value of a written date, if there is such a date; a zone lies within a day. -/
def value? (t : Timestamp) : Option Scalar :=
  if !t.date.isReal then none
  else
    match t.clock with
    | none => some (.date t.date)
    | some clock =>
      if clock.isReal && t.zone.all fun z => (offset z).natAbs < 86400 then
        some (.moment ⟨t.date, clock, t.zone.map offset⟩)
      else none

end Timestamp

end RamlBridge.Yaml

import RamlBridge.Datum.Basic
import RamlBridge.Decimal.FloatFormat
import RamlBridge.Text.Quoted

/-!
Values as they are shown in messages.
-/
namespace RamlBridge

/-- Numbers in a message: positional from 0.0001 up to below 10^16. -/
def messageFloat : FloatFormat := ⟨-4, 15, "inf", "nan"⟩

namespace Date

/-- Year, month and day with hyphens. -/
def iso (d : Date) : List Char :=
  Decimal.padded 4 d.year ++ '-' :: (Decimal.padded 2 d.month ++ '-' :: Decimal.padded 2 d.day)

end Date

namespace Clock

/-- Hour, minute and second with colons, and six digits of a fraction if there is one. -/
def iso (t : Clock) : List Char :=
  let fraction := if t.micro = 0 then [] else '.' :: Decimal.padded 6 t.micro
  Decimal.padded 2 t.hour ++
    ':' :: (Decimal.padded 2 t.minute ++ ':' :: (Decimal.padded 2 t.second ++ fraction))

/-- The parts that a call that builds the time would name. -/
def parts (t : Clock) : List Nat :=
  [t.hour, t.minute] ++
    (if t.micro ≠ 0 then [t.second, t.micro] else if t.second ≠ 0 then [t.second] else [])

end Clock

namespace Moment

def offsetText (seconds : Int) : List Char :=
  let n := seconds.natAbs
  (if seconds < 0 then '-' else '+') ::
    (Decimal.padded 2 (n / 3600) ++ ':' :: (Decimal.padded 2 (n / 60 % 60) ++
      (if n % 60 = 0 then [] else ':' :: Decimal.padded 2 (n % 60))))

def iso (separator : Char) (universal : List Char) (m : Moment) : List Char :=
  m.date.iso ++ separator :: (m.clock.iso ++
    match m.offset with
    | none => []
    | some 0 => universal
    | some seconds => offsetText seconds)

end Moment

private def call (name : String) (arguments : List String) : String :=
  name ++ "(" ++ ", ".intercalate arguments ++ ")"

/-- The zone of an offset: universal time, or a distance in days and seconds. -/
private def zoneText (seconds : Int) : String :=
  if seconds = 0 then "datetime.timezone.utc"
  else
    let days := Int.fdiv seconds 86400
    let rest := Int.fmod seconds 86400
    let arguments :=
      (if days = 0 then [] else ["days=" ++ String.ofList (Decimal.integer days)]) ++
        (if rest = 0 then [] else ["seconds=" ++ String.ofList (Decimal.integer rest)])
    call "datetime.timezone" [call "datetime.timedelta" arguments]

namespace Scalar

/-- A scalar as it is shown inside a collection. An integer of too many digits cannot be shown. -/
def shown : Scalar → Option String
  | .null => some "None"
  | .bool true => some "True"
  | .bool false => some "False"
  | .int n => Decimal.integerText? n
  | .float x => some (String.ofList (messageFloat.write x))
  | .text s => some (Text.quoted s)
  | .bytes content => some (Text.quotedBytes content)
  | .date d => some (call "datetime.date" ([d.year, d.month, d.day].map Decimal.text))
  | .clock t => some (call "datetime.time" (t.parts.map Decimal.text))
  | .moment m =>
    some (call "datetime.datetime" (([m.date.year, m.date.month, m.date.day] ++ m.clock.parts).map
        Decimal.text ++
      match m.offset with
      | none => []
      | some seconds => ["tzinfo=" ++ zoneText seconds]))
  | .pair a b =>
    match shown a, shown b with
    | some s, some t => some ("(" ++ s ++ ", " ++ t ++ ")")
    | _, _ => none

/-- A scalar as it is shown by itself: a text without quotes, a date in figures. -/
def plainText : Scalar → Option String
  | .text s => some s
  | .date d => some (String.ofList d.iso)
  | .clock t => some (String.ofList t.iso)
  | .moment m => some (String.ofList (m.iso ' ' (Moment.offsetText 0)))
  | s => s.shown

end Scalar

namespace Datum

mutual

/-- A value as it is shown inside a collection, if everything in it can be shown. -/
def shown : Datum → Option String
  | .scalar s => s.shown
  | .list items => (shownItems items).map fun ts => "[" ++ ", ".intercalate ts ++ "]"
  | .pair a b =>
    match shown a, shown b with
    | some s, some t => some ("(" ++ s ++ ", " ++ t ++ ")")
    | _, _ => none
  | .set [] => some "set()"
  | .set members =>
    (members.mapM Scalar.shown).map fun ts => "\x7b" ++ ", ".intercalate ts ++ "\x7d"
  | .map entries => (shownEntries entries).map fun ts => "\x7b" ++ ", ".intercalate ts ++ "\x7d"

def shownItems : List Datum → Option (List String)
  | [] => some []
  | x :: xs =>
    match shown x, shownItems xs with
    | some t, some ts => some (t :: ts)
    | _, _ => none

def shownEntries : List (Scalar × Datum) → Option (List String)
  | [] => some []
  | (key, x) :: rest =>
    match key.shown, shown x, shownEntries rest with
    | some k, some t, some ts => some ((k ++ ": " ++ t) :: ts)
    | _, _, _ => none

end

/-- A value as it is shown by itself. -/
def plainText : Datum → Option String
  | .scalar s => s.plainText
  | d => d.shown

end Datum

end RamlBridge

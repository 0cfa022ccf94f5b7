/-!
Dates and times of day: which of them there are, and the moments they denote.
-/
namespace RamlBridge

structure Date where
  year : Nat
  month : Nat
  day : Nat
deriving DecidableEq, Repr, Inhabited

structure Clock where
  hour : Nat
  minute : Nat
  second : Nat
  micro : Nat
deriving DecidableEq, Repr, Inhabited

/-- A date with a time of day and, if it is known, the offset from universal time in seconds. -/
structure Moment where
  date : Date
  clock : Clock
  offset : Option Int
deriving DecidableEq, Repr, Inhabited

namespace Date

def isLeap (year : Nat) : Bool :=
  year % 4 == 0 && (year % 100 != 0 || year % 400 == 0)

def daysIn (year month : Nat) : Nat :=
  if month == 2 then (if isLeap year then 29 else 28)
  else if month == 4 || month == 6 || month == 9 || month == 11 then 30
  else 31

def isReal (d : Date) : Bool :=
  1 ≤ d.year && 1 ≤ d.month && d.month ≤ 12 && 1 ≤ d.day && d.day ≤ daysIn d.year d.month

def daysBefore (year : Nat) : Nat :=
  let y := year - 1
  365 * y + y / 4 - y / 100 + y / 400

/-- The number of a day, counted from the first day of the year 1. -/
def number (d : Date) : Nat :=
  (List.range' 1 (d.month - 1)).foldl (· + daysIn d.year ·) (daysBefore d.year) + d.day

end Date

namespace Clock

def isReal (t : Clock) : Bool :=
  t.hour < 24 && t.minute < 60 && t.second < 60

def micros (t : Clock) : Nat :=
  ((t.hour * 60 + t.minute) * 60 + t.second) * 1000000 + t.micro

end Clock

namespace Moment

/-- The place of a moment in universal time, in millionths of a second, if its offset is known. -/
def instant? (m : Moment) : Option Int :=
  m.offset.map fun offset =>
    (m.date.number * 86400 : Nat) * 1000000 + (m.clock.micros : Int) - offset * 1000000

/-- Whether two moments are equal: as instants if both offsets are known, and in all figures if
neither is. -/
def same (a b : Moment) : Bool :=
  match a.instant?, b.instant? with
  | some s, some t => s == t
  | none, none => a == b
  | _, _ => false

end Moment

end RamlBridge

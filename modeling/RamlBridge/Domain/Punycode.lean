import RamlBridge.Text.Surrogate

/-!
Labels in letters, digits and hyphens only. The other characters follow the plain ones as numbers:
each says how far it is, in code points and places, from the one inserted before it.
-/
namespace RamlBridge.Domain

/-- The least digit that ends a number at a weight: it depends on how large the numbers before
were. -/
def threshold (weight bias : Nat) : Nat :=
  min 26 (max 1 (weight - bias))

theorem threshold_pos (weight bias : Nat) : 0 < threshold weight bias := by
  simp only [threshold]; omega

/-- How often a number can be divided by 35 before it is at most 455, in steps of 36, and what is
left of it. -/
def shrink (n : Nat) : Nat × Nat :=
  if 455 < n then
    let (steps, left) := shrink (n / 35)
    (steps + 36, left)
  else (0, n)
termination_by n
decreasing_by omega

/-- The bias after a number; the count is that of the characters with the one inserted. -/
def adapt (number count : Nat) (first : Bool) : Nat :=
  let n := if first then number / 700 else number / 2
  let (steps, left) := shrink (n + n / count)
  steps + 36 * left / (left + 38)

def digitLetter (d : Nat) : Char :=
  if d < 26 then Char.ofNat ('a'.toNat + d) else Char.ofNat ('0'.toNat + (d - 26))

def digitOf? (c : Char) : Option Nat :=
  let lower := c.toLower
  if 'a' ≤ lower ∧ lower ≤ 'z' then some (lower.toNat - 'a'.toNat)
  else if c.isDigit then some (c.toNat - '0'.toNat + 26)
  else none

def numberDigits (bias weight n : Nat) : List Char :=
  let t := threshold weight bias
  if n < t then [digitLetter n]
  else digitLetter (t + (n - t) % (36 - t)) :: numberDigits bias (weight + 36) ((n - t) / (36 - t))
termination_by n
decreasing_by
  have pos := threshold_pos weight bias
  have := Nat.div_le_self (n - threshold weight bias) (36 - threshold weight bias)
  omega

/-- The digits of numbers, where the bias follows from the number before. -/
def numbersDigits (bias count : Nat) (first : Bool) : List Nat → List Char
  | [] => []
  | n :: rest =>
    numberDigits bias 36 n ++ numbersDigits (adapt n (count + 1) first) (count + 1) false rest

/-- The numbers on the way to the characters with a code point: the places that are passed since
the last number, which stand in order of the text. -/
def numbersAt (code passed : Nat) : List Nat → List Nat × Nat
  | [] => ([], passed)
  | c :: rest =>
    if c = code then
      let (ns, left) := numbersAt code 0 rest
      (passed :: ns, left)
    else numbersAt code (if c < code then passed + 1 else passed) rest

/-- The numbers of all characters with some code points, in rising order. The first arguments are
the code point behind the last one, how many characters are placed, and the places passed. -/
def numbers (codes : List Nat) (next placed passed : Nat) : List Nat → List Nat
  | [] => []
  | code :: rest =>
    let (ns, left) := numbersAt code (passed + (code - next) * (placed + 1)) codes
    ns ++ numbers codes (code + 1) (placed + ns.length) (left + 1) rest

def insertRising (n : Nat) : List Nat → List Nat
  | [] => [n]
  | m :: rest =>
    if n < m then n :: m :: rest
    else if n = m then m :: rest
    else m :: insertRising n rest

def punycode (cs : List Char) : List Char :=
  let plain := cs.filter fun c => c.toNat < 0x80
  let codes := cs.map Char.toNat
  let others := (codes.filter (0x80 ≤ ·)).foldr insertRising []
  plain ++ (if plain.isEmpty then [] else ['-']) ++
    numbersDigits 72 plain.length true (numbers codes 0x80 plain.length 0 others)

def number? (bias weight factor : Nat) : List Char → Option (Nat × List Char)
  | [] => none
  | c :: rest => do
    let d ← digitOf? c
    let t := threshold weight bias
    if d < t then some (d * factor, rest)
    else
      let (n, rest) ← number? bias (weight + 36) (factor * (36 - t)) rest
      some (d * factor + n, rest)

/-- Inserts the characters that numbers denote; at most so many. The place is that behind the last
one. -/
def insertNumbered (bias code place : Nat) (first : Bool) :
    Nat → List Char → List Char → Option (List Char)
  | 0, done, _ => some done
  | _, done, [] => some done
  | fuel + 1, done, digits => do
    let (n, rest) ← number? bias 36 1 digits
    let count := done.length + 1
    let code := code + (place + n) / count
    let place := (place + n) % count
    if code < 0x110000 then
      insertNumbered (adapt n count first) code (place + 1) false fuel
        (done.insertIdx place (Text.ofCode code)) rest
    else none

def fromPunycode? (cs : List Char) : Option (List Char) :=
  let digits := (cs.reverse.takeWhile (· != '-')).reverse
  insertNumbered 72 0x80 0 true digits.length (cs.take (cs.length - digits.length - 1)) digits

end RamlBridge.Domain

import RamlBridge.Datum.Basic
import RamlBridge.Decimal.Numeral
import RamlBridge.Text.Hex

/-!
The scalars of a TOML text: texts, numbers, dates and times. Each is read from the front of the
characters, together with what follows it.
-/
namespace RamlBridge.Toml

inductive Fault where
  | malformed
  | integerTooLong
deriving DecidableEq, Repr, Inhabited

def malformed {α : Type} : Except Fault α := .error .malformed

def isBlank (c : Char) : Bool := c == ' ' || c == '\t'

def isControl (c : Char) : Bool := c.toNat < 0x20 || c.toNat == 0x7f

/-- Whether a character must not stand in a text of one line, or of several. -/
def isIllegal (multiline : Bool) (c : Char) : Bool :=
  isControl c && c != '\t' && !(multiline && c == '\n')

def skipBlanks (cs : List Char) : List Char := cs.dropWhile isBlank

/-- What follows a text at the front. -/
def after? (start : String) (cs : List Char) : Option (List Char) :=
  if start.toList.isPrefixOf cs then some (cs.drop start.length) else none

def hexEscape (width : Nat) (cs : List Char) : Except Fault (List Char × List Char) :=
  let digits := cs.take width
  match Text.hexNumber? digits with
  | some n =>
    if digits.length = width ∧ n.isValidChar then .ok ([Char.ofNat n], cs.drop width)
    else malformed
  | none => malformed

/-- What follows a backslash at the end of a line: the blanks of this and the next lines do not
count. -/
def joinedLines (cs : List Char) : Except Fault (List Char × List Char) :=
  let skip (cs : List Char) : List Char := cs.dropWhile fun c => isBlank c || c == '\n'
  match skipBlanks cs with
  | [] => .ok ([], [])
  | '\n' :: rest => .ok ([], skip rest)
  | _ => malformed

/-- What an escape stands for; the backslash comes before the characters. -/
def escape (multiline : Bool) : List Char → Except Fault (List Char × List Char)
  | [] => malformed
  | c :: rest =>
    match c with
    | 'b' => .ok (['\x08'], rest)
    | 't' => .ok (['\t'], rest)
    | 'n' => .ok (['\n'], rest)
    | 'f' => .ok (['\x0c'], rest)
    | 'r' => .ok (['\r'], rest)
    | '"' => .ok (['"'], rest)
    | '\\' => .ok (['\\'], rest)
    | 'u' => hexEscape 4 rest
    | 'U' => hexEscape 8 rest
    | c => if multiline && (isBlank c || c == '\n') then joinedLines (c :: rest) else malformed

/-- The rest of a text in double quotes, one or three of them. What was read so far comes in
reverse. -/
def basicBody (multiline : Bool) :
    Nat → List Char → List Char → Except Fault (List Char × List Char)
  | 0, _, _ => malformed
  | _ + 1, _, [] => malformed
  | fuel + 1, done, c :: rest =>
    if c = '"' then
      if !multiline then .ok (done.reverse, rest)
      else
        match rest with
        | '"' :: '"' :: rest => .ok (done.reverse, rest)
        | _ => basicBody multiline fuel (c :: done) rest
    else if c = '\\' then do
      let (text, rest) ← escape multiline rest
      basicBody multiline fuel (text.reverse ++ done) rest
    else if isIllegal multiline c then malformed
    else basicBody multiline fuel (c :: done) rest

/-- The rest of a text in single quotes, one or three of them. -/
def literalBody (multiline : Bool) :
    List Char → List Char → Except Fault (List Char × List Char)
  | _, [] => malformed
  | done, c :: rest =>
    if c = '\'' ∧ ¬ multiline then .ok (done.reverse, rest)
    else
      match c, rest with
      | '\'', '\'' :: '\'' :: rest' => .ok (done.reverse, rest')
      | c, rest =>
        if isIllegal multiline c then malformed else literalBody multiline (c :: done) rest

def basic (multiline : Bool) (cs : List Char) : Except Fault (List Char × List Char) :=
  basicBody multiline (cs.length + 1) [] cs

/-- A text of several lines, with up to two quotes at its end. A line feed at its start does not
count. -/
def severalLines (quote : Char) (cs : List Char) : Except Fault (List Char × List Char) := do
  let cs := match cs with
    | '\n' :: rest => rest
    | cs => cs
  let (text, rest) ← if quote = '"' then basic true cs else literalBody true [] cs
  let extra := (rest.take 2).takeWhile (· == quote)
  .ok (text ++ extra, rest.drop extra.length)

/-- The text of characters that begin with a quote. -/
def text (cs : List Char) : Except Fault (String × List Char) :=
  let body : Except Fault (List Char × List Char) := match cs with
    | '"' :: '"' :: '"' :: rest => severalLines '"' rest
    | '\'' :: '\'' :: '\'' :: rest => severalLines '\'' rest
    | '"' :: rest => basic false rest
    | '\'' :: rest => literalBody false [] rest
    | _ => malformed
  body.map fun p => (String.ofList p.1, p.2)

/-- The number of as many digits, and what follows them. -/
def digits? (width : Nat) (cs : List Char) : Option (Nat × List Char) :=
  let ds := cs.take width
  if ds.length = width ∧ ds.all Char.isDigit then some (Decimal.ofDigits ds, cs.drop width)
  else none

def date? (cs : List Char) : Option (Date × List Char) := do
  let (year, rest) ← digits? 4 cs
  let (month, rest) ← digits? 2 (← after? "-" rest)
  let (day, rest) ← digits? 2 (← after? "-" rest)
  if 1 ≤ month ∧ month ≤ 12 ∧ 1 ≤ day ∧ day ≤ 31 then some (⟨year, month, day⟩, rest)
  else none

/-- A time of day. Of the digits behind the point, six count. -/
def clock? (cs : List Char) : Option (Clock × List Char) := do
  let (hour, rest) ← digits? 2 cs
  let (minute, rest) ← digits? 2 (← after? ":" rest)
  let (second, rest) ← digits? 2 (← after? ":" rest)
  let places := ((after? "." rest).getD []).takeWhile Char.isDigit
  let micro := Decimal.ofDigits ((places ++ List.replicate 6 '0').take 6)
  let t : Clock := ⟨hour, minute, second, if places.isEmpty then 0 else micro⟩
  if t.isReal then
    some (t, if places.isEmpty then rest else rest.drop (places.length + 1))
  else none

def zone? : List Char → Option (Int × List Char)
  | [] => none
  | c :: rest =>
    if c = 'Z' ∨ c = 'z' then some (0, rest)
    else if c = '+' ∨ c = '-' then do
      let (hours, rest) ← digits? 2 rest
      let (minutes, rest) ← digits? 2 (← after? ":" rest)
      let seconds : Int := 3600 * hours + 60 * minutes
      if hours < 24 ∧ minutes < 60 then some (if c = '-' then -seconds else seconds, rest)
      else none
    else none

/-- A time of day after a date, behind a letter or a space. -/
def clockAfterDate? : List Char → Option (Clock × List Char)
  | c :: rest => if c = 'T' ∨ c = 't' ∨ c = ' ' then clock? rest else none
  | [] => none

/-- A date with a time of day or without, or a time of day alone. -/
def time? (cs : List Char) : Option (Except Fault (Scalar × List Char)) :=
  match date? cs with
  | some (d, rest) =>
    some <| if !d.isReal then malformed
    else
      match clockAfterDate? rest with
      | none => .ok (.date d, rest)
      | some (t, rest) =>
        match zone? rest with
        | some (offset, rest) => .ok (.moment ⟨d, t, some offset⟩, rest)
        | none => .ok (.moment ⟨d, t, none⟩, rest)
  | none => (clock? cs).map fun p => .ok (.clock p.1, p.2)

/-- Digits of a base with single underscores between them, and what follows them. -/
def digitsAfter (isDigit : Char → Bool) : List Char → List Char × List Char
  | [] => ([], [])
  | c :: rest =>
    if isDigit c then
      let (ds, rest) := digitsAfter isDigit rest
      (c :: ds, rest)
    else
      match c, rest with
      | '_', d :: rest' =>
        if isDigit d then
          let (ds, rest) := digitsAfter isDigit rest'
          (d :: ds, rest)
        else ([], c :: rest)
      | _, _ => ([], c :: rest)

/-- Digits of which the first is no underscore; at least one. -/
def digitRun? (isDigit : Char → Bool) (cs : List Char) : Option (List Char × List Char) :=
  if cs.head?.any isDigit then some (digitsAfter isDigit cs) else none

/-- An integer in the base that its second letter names. -/
def basedInteger? (cs : List Char) : Option (Scalar × List Char) :=
  let read (base : Nat) (rest : List Char) : Option (Scalar × List Char) :=
    (digitRun? (fun c => (Text.hexValue? c).any (· < base)) rest).map fun p =>
      (.int (p.1.foldl (fun n c => base * n + (Text.hexValue? c).getD 0) 0), p.2)
  match cs with
  | '0' :: 'x' :: rest => read 16 rest
  | '0' :: 'b' :: rest => read 2 rest
  | '0' :: 'o' :: rest => read 8 rest
  | _ => none

def places (cs : List Char) : List Char × List Char :=
  match cs with
  | '.' :: rest =>
    match digitRun? Char.isDigit rest with
    | some (ds, rest) => ('.' :: ds, rest)
    | none => ([], cs)
  | _ => ([], cs)

def exponent (cs : List Char) : List Char × List Char :=
  match cs with
  | e :: rest =>
    if e = 'e' ∨ e = 'E' then
      let (sign, rest) := match rest with
        | '+' :: rest => (['+'], rest)
        | '-' :: rest => (['-'], rest)
        | rest => ([], rest)
      match digitRun? Char.isDigit rest with
      | some (ds, rest) => (e :: sign ++ ds, rest)
      | none => ([], cs)
    else ([], cs)
  | [] => ([], cs)

/-- A number in base ten. A fraction or an exponent tells it from an integer. -/
def decimal? (cs : List Char) : Option (Except Fault (Scalar × List Char)) :=
  let (sign, unsigned) := match cs with
    | '+' :: rest => (['+'], rest)
    | '-' :: rest => (['-'], rest)
    | cs => ([], cs)
  let whole := match unsigned with
    | '0' :: rest => some (['0'], rest)
    | cs => digitRun? Char.isDigit cs
  whole.map fun (ds, rest) =>
    let (fraction, rest) := places rest
    let (power, rest) := exponent rest
    if fraction.isEmpty && power.isEmpty then
      if ds.length > Decimal.mostDigits then .error .integerTooLong
      else .ok (.int (Decimal.signed (sign == ['-']) (Decimal.ofDigits ds)), rest)
    else
      match Decimal.realOf? (sign ++ ds ++ fraction ++ power) with
      | some x => .ok (.float x, rest)
      | none => malformed

/-- A number that is not finite. -/
def special? (cs : List Char) : Option (Scalar × List Char) :=
  [("inf", Binary64.infinity false), ("nan", .nan), ("-inf", .infinity true),
    ("+inf", .infinity false), ("-nan", .nan), ("+nan", .nan)].findSome? fun p =>
      (after? p.1 cs).map fun rest => (.float p.2, rest)

/-- A scalar that is neither a text nor a truth value. -/
def number (cs : List Char) : Except Fault (Scalar × List Char) :=
  match time? cs with
  | some reading => reading
  | none =>
    match basedInteger? cs with
    | some p => .ok p
    | none =>
      match decimal? cs with
      | some reading => reading
      | none =>
        match special? cs with
        | some p => .ok p
        | none => malformed

end RamlBridge.Toml

import RamlBridge.Validation.Basic
import RamlBridge.Datum.Json
import RamlBridge.Decimal.Numeral
import RamlBridge.Text.Case

/-!
Checks of single fields: which values of a document a text, a number, a boolean, a list or a map
may be given as.
-/
namespace RamlBridge.Checked

variable {α : Type}

/-- The text that a scalar gives: its own, or what its bytes encode. -/
def textOf? : Scalar → Option (Option String)
  | .text s => some (some s)
  | .bytes content => some (String.fromUTF8? ⟨content.toArray⟩)
  | _ => none

def text : Datum → Checked String
  | .scalar s =>
    match textOf? s with
    | some (some t) => .accepted t
    | some none => fault .unreadableText
    | none => fault .notText
  | _ => fault .notText

def anything (d : Datum) : Checked Datum := .accepted d

/-- What a text is read as, unless it cannot be encoded. -/
def encodable (t : String) (outcome : Checked α) : Checked α :=
  if Text.holdsHalf t then fault .unreadableText else outcome

def nullable (check : Datum → Checked α) : Datum → Checked (Option α)
  | .scalar .null => .accepted none
  | d => map some (check d)

/-- The least and the greatest integer between which a number without fraction is taken for an
integer, both excluded. -/
def integerBound : Int := 9223372036854775808

def integerOfFloat (x : Binary64) : Checked Int :=
  if !x.isFinite then fault .notFinite
  else
    match x.toInt? with
    | none => fault .fractional
    | some n => if -integerBound < n ∧ n < integerBound then .accepted n else fault .integerTooLarge

def integerOfText (t : Option String) : Checked Int :=
  match t with
  | none => fault .unreadableInteger
  | some t =>
    encodable t <|
      match Decimal.readInteger t with
      | .ok n => .accepted n
      | .error .unreadable => fault .unreadableInteger
      | .error .tooLong => fault .integerTooLarge

/-- An integer; also a boolean, a number without fraction, or a numeral. -/
def integer : Datum → Checked Int
  | .scalar (.int n) => .accepted n
  | .scalar (.bool b) => .accepted (if b then 1 else 0)
  | .scalar (.float x) => integerOfFloat x
  | .scalar s =>
    match textOf? s with
    | some t => integerOfText t
    | none => fault .notInteger
  | _ => fault .notInteger

def count (d : Datum) : Checked Nat :=
  (integer d).andThen fun n => if 0 ≤ n then .accepted n.toNat else fault .negative

def booleanOfText (t : String) : Checked Bool :=
  let word := Text.lower t
  encodable t <|
    if word ∈ ["1", "true", "t", "yes", "y", "on"] then .accepted true
    else if word ∈ ["0", "false", "f", "no", "n", "off"] then .accepted false
    else fault .unreadableBoolean

def booleanOfInteger (n : Int) : Checked Bool :=
  if n = 1 then .accepted true
  else if n = 0 then .accepted false
  else fault .unreadableBoolean

/-- A boolean; also one and zero, and the usual words for yes and no. -/
def boolean : Datum → Checked Bool
  | .scalar (.bool b) => .accepted b
  | .scalar (.int n) => booleanOfInteger n
  | .scalar (.float x) =>
    match integerOfFloat x with
    | .accepted n => booleanOfInteger n
    | _ => fault .notBoolean
  | .scalar s =>
    match textOf? s with
    | some (some t) => booleanOfText t
    | some none => fault .unreadableBoolean
    | none => fault .notBoolean
  | _ => fault .notBoolean

/-- The items of a list, a pair or a set. -/
def listItems? : Datum → Option (List Datum)
  | .list items => some items
  | .pair a b => some [a, b]
  | .set members => some (members.map .scalar)
  | _ => none

def list (check : Datum → Checked α) (d : Datum) : Checked (List α) :=
  match listItems? d with
  | some xs => items check xs
  | none => fault .notList

def keyName : Scalar → String
  | .text s => s
  | .bool b => if b then "1" else "0"
  | .pair a b => (Scalar.pair a b).shown.getD "<unprintable tuple object>"
  | s => s.shown.getD "<unprintable int object>"

def key (k : Scalar) : Checked String :=
  under (.key (keyName k)) (under (.key "[key]") (text (.scalar k)))

def entry (k : Scalar) (value : Checked α) : Checked (String × α) :=
  seq (map Prod.mk (key k)) (under (.key (keyName k)) value)

/-- The outcomes for the entries of a map together; of the entries under one name, the last
counts. -/
def entriesOf (outcomes : List (Scalar × Checked α)) : Checked (Entries α) :=
  map Entries.ofList (all (outcomes.map fun p => entry p.1 p.2))

def entries (check : Datum → Checked α) : Datum → Checked (Entries α)
  | .map es => entriesOf (es.map fun p => (p.1, check p.2))
  | _ => fault .notMap

/-- Where a field stands in a map and its value: under its key, or else under its name. -/
def field? (es : List (Scalar × Datum)) (key name : String) : Option (String × Datum) :=
  match Datum.lookup? es key with
  | some d => some (key, d)
  | none => (Datum.lookup? es name).map (Prod.mk name)

def field (es : List (Scalar × Datum)) (key name : String) (absent : α)
    (check : Datum → Checked α) : Checked α :=
  match field? es key name with
  | some (found, d) => under (.key found) (check d)
  | none => .accepted absent

def mandatory (es : List (Scalar × Datum)) (key name : String)
    (check : Datum → Checked α) : Checked α :=
  match field? es key name with
  | some (found, d) => under (.key found) (check d)
  | none => under (.key key) (fault .missing)

/-- Whether a key cannot be encoded. -/
def isHalved : Scalar → Bool
  | .text s => Text.holdsHalf s
  | _ => false

/-- Adds the faults of unknown keys to what reading the known ones gave. If a key cannot be
encoded, that is the only fault. -/
def withUnknown (es : List (Scalar × Datum)) (unknown : List Fault) (outcome : Checked α) :
    Checked α :=
  match outcome with
  | .stopped obstacle => .stopped obstacle
  | outcome =>
    if es.any fun p => isHalved p.1 then fault .unreadableText
    else if unknown.isEmpty then outcome
    else seq (map (fun a _ => a) outcome) (.refused unknown : Checked Unit)

def fields (model : String) : Datum → Checked (List (Scalar × Datum))
  | .map es => .accepted es
  | _ => fault (.notModel model)

end RamlBridge.Checked

import RamlBridge.Decimal.Digits
import RamlBridge.Text.Surrogate

/-!
The outcome of checking a value against a model: what was accepted, or every fault that was
found with the place where it stands, or the reason for which checking could not go on.
-/
namespace RamlBridge

inductive Step where
  | key (name : String)
  | index (n : Nat)
deriving DecidableEq, Repr, Inhabited

def Step.text : Step → String
  | .key name => Text.withoutHalves name
  | .index n => Decimal.text n

inductive FaultKind where
  | missing
  | unknownKey
  | notText
  | unreadableText
  | notInteger
  | fractional
  | unreadableInteger
  | integerTooLarge
  | notFinite
  | negative
  | notNumber
  | unreadableNumber
  | notBoolean
  | unreadableBoolean
  | notList
  | notMap
  | notModel (name : String)
  | notOneOf (choices : List String)
  | notExactly (value : String)
  | unfit (reason : String)
deriving DecidableEq, Repr, Inhabited

/-- Names in single quotes, the last two of them joined by a word. -/
def listed : List String → String
  | [] => ""
  | [a] => "'" ++ a ++ "'"
  | [a, b] => "'" ++ a ++ "' or '" ++ b ++ "'"
  | a :: rest => "'" ++ a ++ "', " ++ listed rest

def FaultKind.message : FaultKind → String
  | .missing => "Field required"
  | .unknownKey => "Extra inputs are not permitted"
  | .notText => "Input should be a valid string"
  | .unreadableText =>
    "Input should be a valid string, unable to parse raw data as a unicode string"
  | .notInteger => "Input should be a valid integer"
  | .fractional => "Input should be a valid integer, got a number with a fractional part"
  | .unreadableInteger => "Input should be a valid integer, unable to parse string as an integer"
  | .integerTooLarge => "Unable to parse input string as an integer, exceeded maximum size"
  | .notFinite => "Input should be a finite number"
  | .negative => "Input should be greater than or equal to 0"
  | .notNumber => "Input should be a valid number"
  | .unreadableNumber => "Input should be a valid number, unable to parse string as a number"
  | .notBoolean => "Input should be a valid boolean"
  | .unreadableBoolean => "Input should be a valid boolean, unable to interpret input"
  | .notList => "Input should be a valid list"
  | .notMap => "Input should be a valid dictionary"
  | .notModel name => "Input should be a valid dictionary or instance of " ++ name
  | .notOneOf choices => "Input should be " ++ listed choices
  | .notExactly value => "Input should be " ++ value
  | .unfit reason => "Value error, " ++ reason

/-- The fault of an integer that has too many digits for a text. -/
def FaultKind.tooManyDigits : FaultKind :=
  .unfit ("Exceeds the limit (" ++ Decimal.text Decimal.mostDigits ++ " digits) for integer " ++
    "string conversion; use sys.set_int_max_str_digits() to increase the limit")

/-- What is wrong with a part of a value, and the way to that part. -/
structure Fault where
  path : List Step
  kind : FaultKind
deriving DecidableEq, Repr, Inhabited

namespace Fault

def under (step : Step) (f : Fault) : Fault :=
  ⟨step :: f.path, f.kind⟩

def message (f : Fault) : String :=
  ".".intercalate (f.path.map Step.text) ++ ": " ++ f.kind.message

end Fault

/-- Why checking a value came to an end before all of it was looked at. -/
inductive Obstacle where
  | unhashableKey
  | notIterable
  | notJson
deriving DecidableEq, Repr, Inhabited

inductive Checked (α : Type) where
  | accepted (value : α)
  | refused (faults : List Fault)
  | stopped (obstacle : Obstacle)
deriving Repr

namespace Checked

variable {α β : Type}

instance [Inhabited α] : Inhabited (Checked α) := ⟨.accepted default⟩

def fault (kind : FaultKind) : Checked α :=
  .refused [⟨[], kind⟩]

def map (f : α → β) : Checked α → Checked β
  | .accepted a => .accepted (f a)
  | .refused faults => .refused faults
  | .stopped obstacle => .stopped obstacle

/-- Both outcomes together. The faults of the first come first; an obstacle outweighs every
fault, and the first obstacle every later one. -/
def seq (first : Checked (α → β)) (second : Checked α) : Checked β :=
  match first, second with
  | .stopped obstacle, _ => .stopped obstacle
  | _, .stopped obstacle => .stopped obstacle
  | .refused faults, .refused more => .refused (faults ++ more)
  | .refused faults, .accepted _ => .refused faults
  | .accepted _, .refused faults => .refused faults
  | .accepted f, .accepted a => .accepted (f a)

instance : Applicative Checked where
  pure := .accepted
  map := map
  seq first second := seq first (second ())

def andThen (outcome : Checked α) (next : α → Checked β) : Checked β :=
  match outcome with
  | .accepted a => next a
  | .refused faults => .refused faults
  | .stopped obstacle => .stopped obstacle

def under (step : Step) : Checked α → Checked α
  | .accepted a => .accepted a
  | .refused faults => .refused (faults.map (Fault.under step))
  | .stopped obstacle => .stopped obstacle

def all : List (Checked α) → Checked (List α)
  | [] => .accepted []
  | outcome :: rest => seq (map List.cons outcome) (all rest)

/-- All outcomes in turn, up to the first that is not accepted. -/
def inTurn : List (Checked α) → Checked (List α)
  | [] => .accepted []
  | outcome :: rest => andThen outcome fun a => map (a :: ·) (inTurn rest)

/-- The outcomes for the items of a list, each under its index, counted from a start. -/
def itemsFrom (start : Nat) (check : β → Checked α) : List β → List (Checked α)
  | [] => []
  | x :: xs => under (.index start) (check x) :: itemsFrom (start + 1) check xs

def items (check : β → Checked α) (xs : List β) : Checked (List α) :=
  all (itemsFrom 0 check xs)

end Checked

end RamlBridge

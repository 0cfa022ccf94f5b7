import RamlBridge.Json.Basic
import RamlBridge.Decimal.FloatFormat
import RamlBridge.Text.Quoted

/-!
The text of a JSON value, on one line or on indented lines. A value that holds an integer of too
many digits has none.
-/
namespace RamlBridge.Json

/-- How a value is laid out: on lines of their own with a width of indentation, or on one line;
and whether characters outside ASCII are written as escapes. -/
structure Layout where
  indent : Option Int
  ascii : Bool

namespace Layout

/-- All on one line, in any characters. -/
def line : Layout := ⟨none, false⟩

/-- All on one line, in ASCII characters. -/
def asciiLine : Layout := ⟨none, true⟩

/-- Each item on a line of its own; without a width, all on one line. -/
def indented (width : Option Int) : Layout := ⟨width, false⟩

/-- What stands before an item or a closing bracket at a depth. -/
def gap (layout : Layout) (depth : Nat) : List Char :=
  match layout.indent with
  | none => []
  | some width => '\n' :: List.replicate (width.toNat * depth) ' '

def comma (layout : Layout) (depth : Nat) : List Char :=
  match layout.indent with
  | none => [',', ' ']
  | some _ => ',' :: layout.gap depth

end Layout

/-- Numbers of a JSON text: positional from 0.0001 up to below 10^16. -/
def floatFormat : FloatFormat := ⟨-4, 15, "Infinity", "NaN"⟩

def unitEscape (n : Nat) : List Char :=
  '\\' :: 'u' :: Text.hexDigits 4 n

/-- A character that has no escape of its own, by its code units. -/
def codeEscape (c : Char) : List Char :=
  let n := Text.codeOf c
  if n < 0x10000 then unitEscape n
  else unitEscape (0xd800 + (n - 0x10000) / 0x400) ++ unitEscape (0xdc00 + (n - 0x10000) % 0x400)

def escaped (ascii : Bool) (c : Char) : List Char :=
  if c == '"' then ['\\', '"']
  else if c == '\\' then ['\\', '\\']
  else if c == '\n' then ['\\', 'n']
  else if c == '\r' then ['\\', 'r']
  else if c == '\t' then ['\\', 't']
  else if c == '\x08' then ['\\', 'b']
  else if c == '\x0c' then ['\\', 'f']
  else if c.toNat < 0x20 || (ascii && 0x7f ≤ c.toNat) then codeEscape c
  else [c]

def quotedText (ascii : Bool) (s : String) : List Char :=
  '"' :: (s.toList.flatMap (escaped ascii) ++ ['"'])

mutual

/-- The characters of a value whose own line stands at a depth. -/
def render (layout : Layout) (depth : Nat) : Json → List Char
  | .null => ['n', 'u', 'l', 'l']
  | .bool true => ['t', 'r', 'u', 'e']
  | .bool false => ['f', 'a', 'l', 's', 'e']
  | .int n => Decimal.integer n
  | .float x => floatFormat.write x
  | .text s => quotedText layout.ascii s
  | .array [] => ['[', ']']
  | .array (x :: xs) =>
    '[' :: (layout.gap (depth + 1) ++ (render layout (depth + 1) x ++
      (renderItems layout (depth + 1) xs ++ (layout.gap depth ++ [']']))))
  | .object [] => ['\x7b', '\x7d']
  | .object ((name, x) :: rest) =>
    '\x7b' :: (layout.gap (depth + 1) ++ (quotedText layout.ascii name ++ ([':', ' '] ++
      (render layout (depth + 1) x ++
        (renderMembers layout (depth + 1) rest ++ (layout.gap depth ++ ['\x7d']))))))

/-- The items after the first, each with the comma before it. -/
def renderItems (layout : Layout) (depth : Nat) : List Json → List Char
  | [] => []
  | x :: xs => layout.comma depth ++ (render layout depth x ++ renderItems layout depth xs)

def renderMembers (layout : Layout) (depth : Nat) : List (String × Json) → List Char
  | [] => []
  | (name, x) :: rest =>
    layout.comma depth ++ (quotedText layout.ascii name ++ ([':', ' '] ++
      (render layout depth x ++ renderMembers layout depth rest)))

end

mutual

/-- Whether no integer in a value has too many digits. -/
def isWritable : Json → Bool
  | .int n => Decimal.isShort n
  | .array items => itemsWritable items
  | .object members => membersWritable members
  | _ => true

def itemsWritable : List Json → Bool
  | [] => true
  | x :: xs => isWritable x && itemsWritable xs

def membersWritable : List (String × Json) → Bool
  | [] => true
  | (_, x) :: rest => isWritable x && membersWritable rest

end

def written (layout : Layout) (value : Json) : String :=
  String.ofList (render layout 0 value)

/-- The text of a value in a layout, if it can be written. -/
def write (layout : Layout) (value : Json) : Option String :=
  if value.isWritable then some (value.written layout) else none

end RamlBridge.Json

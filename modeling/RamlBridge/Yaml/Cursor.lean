import RamlBridge.Text.Surrogate

/-!
A place in a YAML text: what is left of it and how much that is, and how far the place is from the
start of its line.
-/
namespace RamlBridge.Yaml

def isPrintable (c : Char) : Bool :=
  let n := c.toNat
  n == 0x9 || n == 0xa || n == 0xd || (0x20 ≤ n && n ≤ 0x7e) || n == 0x85 ||
    (0xa0 ≤ n && n ≤ 0xfffd) || (0x10000 ≤ n && !Text.isHalf c)

def byteOrderMark : Char := Char.ofNat 0xfeff

def isBreak (c : Char) : Bool :=
  let n := c.toNat
  n == 0xa || n == 0xd || n == 0x85 || n == 0x2028 || n == 0x2029

def isBlank (c : Char) : Bool := c == ' ' || c == '\t'

/-- Whether a line ends here, with a break or with the text. -/
def endsLine : Option Char → Bool
  | none => true
  | some c => isBreak c

def endsItem (c : Option Char) : Bool :=
  c == some ' ' || endsLine c

def endsWord (c : Option Char) : Bool :=
  c == some '\t' || endsItem c

/-- Whether a character may stand in the name of an anchor, a handle or a directive. -/
def isNameChar (c : Char) : Bool :=
  c.isAlphanum || c == '-' || c == '_'

structure Cursor where
  rest : List Char
  left : Nat
  line : Nat
  column : Nat
deriving Inhabited

namespace Cursor

def start (text : List Char) : Cursor := ⟨text, text.length, 0, 0⟩

/-- The place after one character. A carriage return before a line feed does not end the line,
and a byte order mark takes no column. -/
def next (c : Cursor) : Cursor :=
  match c.rest with
  | [] => c
  | ch :: rest =>
    if isBreak ch && !(ch == '\r' && rest.head? == some '\n') then
      ⟨rest, c.left - 1, c.line + 1, 0⟩
    else if ch == byteOrderMark then ⟨rest, c.left - 1, c.line, c.column⟩
    else ⟨rest, c.left - 1, c.line, c.column + 1⟩

def skip : Nat → Cursor → Cursor
  | 0, c => c
  | n + 1, c => skip n c.next

def peekAt (c : Cursor) (n : Nat) : Option Char := c.rest[n]?

def peek (c : Cursor) : Option Char := c.rest.head?

def span (p : Char → Bool) (c : Cursor) : List Char × Cursor :=
  let taken := c.rest.takeWhile p
  (taken, c.skip taken.length)

def skipWhile (p : Char → Bool) (c : Cursor) : Cursor := (c.span p).2

def skipSpaces (c : Cursor) : Cursor := c.skipWhile (· == ' ')

/-- The place at the end of a comment, if one begins here. -/
def skipComment (c : Cursor) : Cursor :=
  if c.peek = some '#' then c.skipWhile (!isBreak ·) else c

/-- The break that stands here as it counts in a text, and the place after it. Separators of lines
and paragraphs count as themselves, any other break as a line feed. -/
def lineBreak (c : Cursor) : List Char × Cursor :=
  match c.rest with
  | '\r' :: '\n' :: _ => (['\n'], c.skip 2)
  | ch :: _ =>
    if ch == '\r' || ch == '\n' || ch.toNat == 0x85 then (['\n'], c.next)
    else if isBreak ch then ([ch], c.next)
    else ([], c)
  | [] => ([], c)

/-- Whether three characters stand here with a blank or the end of a line behind them. -/
def atMarker (mark : Char) (c : Cursor) : Bool :=
  c.rest.take 3 == [mark, mark, mark] && endsWord (c.peekAt 3)

/-- Whether a document begins or ends here. -/
def atSeparator (c : Cursor) : Bool :=
  c.atMarker '-' || c.atMarker '.'

end Cursor

end RamlBridge.Yaml

import RamlBridge.Text.Hex
import RamlBridge.Text.Surrogate
import RamlBridge.Yaml.Token

/-!
The text of scalars: in quotes, plain, and in blocks.
-/
namespace RamlBridge.Yaml

/-- The empty lines that a quoted text is broken at. No document may begin or end there. -/
def quotedBreaks : Nat → Cursor → Except SyntaxFault (List Char × Cursor)
  | 0, c => .ok ([], c)
  | fuel + 1, c =>
    if c.atSeparator then .error .malformed
    else
      let c := c.skipWhile isBlank
      match c.lineBreak with
      | ([], _) => .ok ([], c)
      | (b, c) => (quotedBreaks fuel c).map fun p => (b ++ p.1, p.2)

def shortEscape? : Char → Option Char
  | '0' => some (Char.ofNat 0)
  | 'a' => some '\x07'
  | 'b' => some '\x08'
  | 't' => some '\t'
  | '\t' => some '\t'
  | 'n' => some '\n'
  | 'v' => some '\x0b'
  | 'f' => some '\x0c'
  | 'r' => some '\r'
  | 'e' => some '\x1b'
  | ' ' => some ' '
  | '"' => some '"'
  | '\\' => some '\\'
  | '/' => some '/'
  | 'N' => some (Char.ofNat 0x85)
  | '_' => some (Char.ofNat 0xa0)
  | 'L' => some (Char.ofNat 0x2028)
  | 'P' => some (Char.ofNat 0x2029)
  | _ => none

/-- The count of the digits that follow a letter of an escape. -/
def escapeWidth? : Char → Option Nat
  | 'x' => some 2
  | 'u' => some 4
  | 'U' => some 8
  | _ => none

def codeChar (n : Nat) : Except SyntaxFault Char :=
  if n < 0x110000 then .ok (Text.ofCode n)
  else if n < 0x80000000 then .error .noCharacter
  else .error .codeTooLarge

/-- What an escape after a backslash stands for. A break that is escaped is left out, with the
blanks after it. -/
def escape (c : Cursor) : Except SyntaxFault (List Char × Cursor) :=
  match c.peek with
  | none => .error .malformed
  | some ch =>
    match shortEscape? ch, escapeWidth? ch with
    | some e, _ => .ok ([e], c.next)
    | none, some width =>
      let digits := c.next.rest.take width
      match Text.hexNumber? digits with
      | some n =>
        if digits.length = width then (codeChar n).map fun e => ([e], c.next.skip width)
        else .error .malformed
      | none => .error .malformed
    | none, none =>
      if isBreak ch then quotedBreaks c.rest.length c.lineBreak.2 else .error .malformed

/-- What a break in a quoted text counts as, with the empty lines after it: a single break is a
space. -/
def foldBreak (first breaks : List Char) : List Char :=
  if first ≠ ['\n'] then first ++ breaks
  else if breaks.isEmpty then [' ']
  else breaks

/-- The rest of a quoted text up to its closing quote; what was read so far comes in reverse. -/
def quotedText (double : Bool) : Nat → List Char → Cursor → Except SyntaxFault (String × Cursor)
  | 0, _, _ => .error .malformed
  | fuel + 1, done, c =>
    match c.rest with
    | [] => .error .malformed
    | ch :: rest =>
      if !double && ch == '\'' && rest.head? == some '\'' then
        quotedText double fuel ('\'' :: done) (c.skip 2)
      else if ch == (if double then '"' else '\'') then
        .ok (String.ofList done.reverse, c.next)
      else if double && ch == '\\' then do
        let (text, c) ← escape c.next
        quotedText double fuel (text.reverse ++ done) c
      else if isBlank ch || isBreak ch then
        let (blanks, c) := c.span isBlank
        match c.peek with
        | none => .error .malformed
        | some next =>
          if isBreak next then do
            let (first, c) := c.lineBreak
            let (breaks, c) ← quotedBreaks c.rest.length c
            quotedText double fuel ((foldBreak first breaks).reverse ++ done) c
          else quotedText double fuel (blanks.reverse ++ done) c
      else quotedText double fuel (ch :: done) c.next

def quotedScalar (double : Bool) (c : Cursor) : Except SyntaxFault (String × Cursor) :=
  quotedText double (c.rest.length + 1) [] c.next

/-- The empty lines inside a plain text, and whether a document begins or ends behind them. -/
def plainBreaks : Nat → Cursor → List Char × Bool × Cursor
  | 0, c => ([], false, c)
  | fuel + 1, c =>
    let c := c.skipSpaces
    match c.lineBreak with
    | ([], _) => ([], false, c)
    | (b, c) =>
      if c.atSeparator then ([], true, c)
      else
        let (breaks, stopped, c) := plainBreaks fuel c
        (b ++ breaks, stopped, c)

/-- What the spaces and breaks after a part of a plain text count as: nothing if the text ends
there. Also whether there was a break. -/
def plainSpaces (c : Cursor) : List Char × Bool × Cursor :=
  let (spaces, c) := c.span (· == ' ')
  match c.lineBreak with
  | ([], _) => (spaces, false, c)
  | (first, c) =>
    if c.atSeparator then ([], true, c)
    else
      let (breaks, stopped, c) := plainBreaks c.rest.length c
      (if stopped then [] else foldBreak first breaks, true, c)

def endsPlain (flow : Bool) : List Char → Bool
  | [] => true
  | c :: rest =>
    isBlank c || isBreak c ||
      (c == ':' &&
        (endsWord rest.head? || (flow && rest.head?.any (",[]\x7b\x7d".toList.contains ·)))) ||
      (flow && ",?[]\x7b\x7d".toList.contains c)

def plainRun (flow : Bool) : List Char → List Char
  | [] => []
  | c :: rest => if endsPlain flow (c :: rest) then [] else c :: plainRun flow rest

/-- The rest of a plain text in a block of an indentation, and whether a break ended it. What was
read so far comes in reverse. -/
def plainText (flow : Bool) (indent : Int) :
    Nat → List Char → List Char → Bool → Cursor → String × Bool × Cursor
  | 0, done, _, broken, c => (String.ofList done.reverse, broken, c)
  | fuel + 1, done, spaces, broken, c =>
    let run := if c.peek = some '#' then [] else plainRun flow c.rest
    if run.isEmpty then (String.ofList done.reverse, broken, c)
    else
      let done := run.reverse ++ (spaces.reverse ++ done)
      let (spaces, broken, c) := plainSpaces (c.skip run.length)
      if spaces.isEmpty || c.peek == some '#' || (!flow && (c.column : Int) < indent) then
        (String.ofList done.reverse, broken, c)
      else plainText flow indent fuel done spaces broken c

def plainScalar (flow : Bool) (indent : Int) (c : Cursor) : String × Bool × Cursor :=
  plainText flow indent (c.rest.length + 1) [] [] false c

/-- What happens to the breaks at the end of a block: one stays, all stay, or none does. -/
inductive Chomping where
  | clip
  | keep
  | strip
deriving DecidableEq, Repr

/-- The sign and the width of indentation at the head of a block, in either order. -/
def blockHeader (c : Cursor) : Except SyntaxFault (Chomping × Option Nat × Cursor) :=
  let sign (c : Cursor) : Chomping × Cursor := match c.peek with
    | some '+' => (.keep, c.next)
    | some '-' => (.strip, c.next)
    | _ => (.clip, c)
  let width (c : Cursor) : Option Nat × Cursor := match c.peek with
    | some d => if d.isDigit then (some (d.toNat - '0'.toNat), c.next) else (none, c)
    | none => (none, c)
  let (chomping, c) := sign c
  let (increment, c) := width c
  let (chomping, c) := if chomping = .clip ∧ increment.isSome then sign c else (chomping, c)
  if increment = some 0 ∨ ¬ endsItem c.peek then .error .malformed
  else .ok (chomping, increment, c)

/-- The rest of a line that holds nothing more than a comment. -/
def emptyLineRest (c : Cursor) : Except SyntaxFault Cursor :=
  let c := c.skipSpaces.skipComment
  if endsLine c.peek then .ok c.lineBreak.2 else .error .malformed

/-- The empty lines at the head of a block, and the deepest column among them. -/
def blockIndent : Nat → Nat → Cursor → List Char × Nat × Cursor
  | 0, deepest, c => ([], deepest, c)
  | fuel + 1, deepest, c =>
    if c.peek = some ' ' then blockIndent fuel (max deepest c.next.column) c.next
    else
      match c.lineBreak with
      | ([], _) => ([], deepest, c)
      | (b, c) =>
        let (breaks, deepest, c) := blockIndent fuel deepest c
        (b ++ breaks, deepest, c)

/-- The place after the spaces that belong to an indentation. -/
def skipIndent (indent : Nat) (c : Cursor) : Cursor :=
  c.skip ((c.rest.takeWhile (· == ' ')).take (indent - c.column)).length

/-- The empty lines inside a block. -/
def blockBreaks (indent : Nat) : Nat → Cursor → List Char × Cursor
  | 0, c => ([], c)
  | fuel + 1, c =>
    let c := skipIndent indent c
    match c.lineBreak with
    | ([], _) => ([], c)
    | (b, c) =>
      let (breaks, c) := blockBreaks indent fuel c
      (b ++ breaks, c)

def inBlock (indent : Nat) (c : Cursor) : Bool :=
  c.column == indent && c.peek.isSome

/-- The rest of a block after some breaks; what was read so far comes in reverse. In a folded
block, a single break between two lines that begin with no blank is a space. -/
def blockText (folded : Bool) (chomping : Chomping) (indent : Nat) :
    Nat → List Char → List Char → Cursor → String × Cursor
  | 0, done, _, c => (String.ofList done.reverse, c)
  | fuel + 1, done, breaks, c =>
    let blankFirst := c.peek.any isBlank
    let (line, c) := c.span (!isBreak ·)
    let done := line.reverse ++ (breaks.reverse ++ done)
    let (lineBreak, c) := c.lineBreak
    let (breaks, c) := blockBreaks indent c.rest.length c
    if inBlock indent c then
      let joint :=
        if folded && lineBreak == ['\n'] && !blankFirst && !c.peek.any isBlank then
          if breaks.isEmpty then [' '] else []
        else lineBreak
      blockText folded chomping indent fuel (joint.reverse ++ done) breaks c
    else
      let ending := (if chomping = .strip then [] else lineBreak) ++
        (if chomping = .keep then breaks else [])
      (String.ofList (done.reverse ++ ending), c)

/-- Reads a block whose parent has an indentation. -/
def blockScalar (folded : Bool) (indent : Int) (c : Cursor) :
    Except SyntaxFault (String × Cursor) := do
  let (chomping, increment, c) ← blockHeader c.next
  let c ← emptyLineRest c
  let least := (max 1 (indent + 1)).toNat
  let (width, breaks, c) := match increment with
    | none =>
      let (breaks, deepest, c) := blockIndent c.rest.length 0 c
      (max least deepest, breaks, c)
    | some n =>
      let width := least + n - 1
      let (breaks, c) := blockBreaks width c.rest.length c
      (width, breaks, c)
  if inBlock width c then .ok (blockText folded chomping width (c.rest.length + 1) [] breaks c)
  else .ok (if chomping = .keep then String.ofList breaks else "", c)

end RamlBridge.Yaml

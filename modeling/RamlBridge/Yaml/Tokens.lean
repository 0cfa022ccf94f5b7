import RamlBridge.Yaml.ScalarText
import RamlBridge.Text.Utf8

/-!
A YAML text cut into tokens. Indentation is told by tokens that open and close blocks, and a key
without a mark of its own is marked once the colon behind it is found.
-/
namespace RamlBridge.Yaml

/-- A token that may turn out to be a key: where it stands among the tokens and in the text, with
how many characters are left there, and whether it can be nothing else. -/
structure KeyCandidate where
  number : Nat
  required : Bool
  left : Nat
  line : Nat
  column : Nat
deriving Inhabited

/-- The state of cutting: the place, the tokens so far in reverse, the depth of brackets, the
indentations, whether a key may begin here, and the candidates for keys by depth. -/
structure Lexer where
  cursor : Cursor
  tokens : List Token
  count : Nat
  depth : Nat
  indent : Int
  indents : List Int
  keyAllowed : Bool
  candidates : List (Nat × KeyCandidate)
deriving Inhabited

namespace Lexer

def start (text : List Char) : Lexer := ⟨.start text, [], 0, 0, -1, [], true, []⟩

def emit (l : Lexer) (t : Token) : Lexer :=
  { l with tokens := t :: l.tokens, count := l.count + 1 }

def emitOver (l : Lexer) (width : Nat) (t : Token) : Lexer :=
  { l.emit t with cursor := l.cursor.skip width }

def insertAt (l : Lexer) (number : Nat) (t : Token) : Lexer :=
  let later := l.count - number
  { l with tokens := l.tokens.take later ++ t :: l.tokens.drop later, count := l.count + 1 }

def candidate? (l : Lexer) : Option KeyCandidate :=
  (l.candidates.find? (·.1 == l.depth)).map Prod.snd

def withoutCandidate (l : Lexer) : Lexer :=
  { l with candidates := l.candidates.filter (·.1 != l.depth) }

/-- Gives up the candidate of this depth; one that had to be a key is a fault. -/
def dropCandidate (l : Lexer) : Except SyntaxFault Lexer :=
  match l.candidate? with
  | some k => if k.required then .error .malformed else .ok l.withoutCandidate
  | none => .ok l

/-- Whether a candidate can no longer be a key: it is on another line or too far back. -/
def isStale (l : Lexer) (k : KeyCandidate) : Bool :=
  k.line != l.cursor.line || k.left - l.cursor.left > 1024

/-- Gives up every candidate that can no longer be a key. -/
def dropStale (l : Lexer) : Except SyntaxFault Lexer :=
  if l.candidates.any fun p => l.isStale p.2 && p.2.required then .error .malformed
  else .ok { l with candidates := l.candidates.filter fun p => !l.isStale p.2 }

def addCandidate (l : Lexer) : Except SyntaxFault Lexer :=
  if l.keyAllowed then do
    let required := l.depth == 0 && l.indent == l.cursor.column
    let l' ← l.dropCandidate
    .ok { l' with candidates := (l.depth,
      ⟨l.count, required, l.cursor.left, l.cursor.line, l.cursor.column⟩) :: l'.candidates }
  else .ok l

def closeBlocks (column : Int) : List Int → Lexer → Lexer
  | [], l => l
  | outer :: rest, l =>
    if column < l.indent then
      closeBlocks column rest { l.emit .blockEnd with indent := outer, indents := rest }
    else l

/-- Closes the deeper blocks; inside brackets, indentation does not count. -/
def unwind (l : Lexer) (column : Int) : Lexer :=
  if l.depth = 0 then closeBlocks column l.indents l else l

def indentTo (l : Lexer) (column : Nat) : Lexer :=
  { l with indents := l.indent :: l.indents, indent := column }

/-- Opens a block at a column, if it is deeper than the present one, with a token in front of the
one with a number. -/
def openBlock (l : Lexer) (column number : Nat) (t : Token) : Lexer :=
  if l.indent < column then (l.insertAt number t).indentTo column else l

/-- The place of the next token: blanks, comments and breaks are passed over. A break outside
brackets allows a key. -/
def toNextToken : Nat → Lexer → Lexer
  | 0, l => l
  | fuel + 1, l =>
    let cursor := l.cursor.skipSpaces.skipComment
    match cursor.lineBreak with
    | ([], _) => { l with cursor }
    | (_, cursor) =>
      toNextToken fuel { l with cursor, keyAllowed := l.keyAllowed || l.depth == 0 }

/-- The digits of a number of a version; it has at least one, and not too many. -/
def versionNumber (c : Cursor) : Except SyntaxFault (List Char × Cursor) :=
  let (ds, c) := c.span Char.isDigit
  if ds.isEmpty then .error .malformed
  else if Decimal.mostDigits < ds.length then .error .integerTooLong
  else .ok (ds, c)

/-- A version: a number, a point and a number. -/
def versionDirective (c : Cursor) : Except SyntaxFault (Directive × Cursor) := do
  let (major, c) ← versionNumber c.skipSpaces
  if c.peek != some '.' then .error .malformed
  else
    let (_, c) ← versionNumber c.next
    if endsItem c.peek then .ok (.version (Decimal.ofDigits major), c) else .error .malformed

/-- The handle of a tag: exclamation marks around a name, or one alone. -/
def tagHandle (c : Cursor) : Except SyntaxFault (String × Cursor) :=
  if c.peek ≠ some '!' then .error .malformed
  else if c.peekAt 1 = some ' ' then .ok ("!", c.next)
  else
    let (name, c) := c.next.span isNameChar
    if c.peek = some '!' then .ok (String.ofList ('!' :: (name ++ ['!'])), c.next)
    else .error .malformed

def isUriChar (c : Char) : Bool :=
  c.isAlphanum || "-;/?:@&=+$,_.!~*'()[]%".toList.contains c

/-- The bytes that escapes with a percent sign denote, and what follows them. -/
def escapedBytes : List Char → Option (List UInt8 × List Char)
  | '%' :: a :: b :: rest =>
    match Text.hexValue? a, Text.hexValue? b, escapedBytes rest with
    | some a, some b, some (bytes, rest) => some (UInt8.ofNat (a * 16 + b) :: bytes, rest)
    | _, _, _ => none
  | '%' :: _ => none
  | rest => some ([], rest)

def decodeUri : Nat → List Char → Option (List Char)
  | 0, _ => some []
  | _, [] => some []
  | fuel + 1, '%' :: rest =>
    match escapedBytes ('%' :: rest) with
    | some (bytes, rest) =>
      match Text.decodeUtf8 bytes, decodeUri fuel rest with
      | .ok cs, some more => some (cs ++ more)
      | _, _ => none
    | none => none
  | fuel + 1, c :: rest => (decodeUri fuel rest).map (c :: ·)

def tagUri (c : Cursor) : Except SyntaxFault (String × Cursor) :=
  let (chars, c) := c.span isUriChar
  if chars.isEmpty then .error .malformed
  else
    match decodeUri chars.length chars with
    | some text => .ok (String.ofList text, c)
    | none => .error .malformed

def handleDirective (c : Cursor) : Except SyntaxFault (Directive × Cursor) := do
  let (handle, c) ← tagHandle c.skipSpaces
  if c.peek ≠ some ' ' then .error .malformed
  else
    let (tagPrefix, c) ← tagUri c.skipSpaces
    if endsItem c.peek then .ok (.handle handle tagPrefix, c) else .error .malformed

/-- A directive takes up the rest of its line. -/
def directive (c : Cursor) : Except SyntaxFault (Directive × Cursor) := do
  let (name, c) := c.next.span isNameChar
  if name.isEmpty || !endsItem c.peek then .error .malformed
  else
    let (d, c) ← match String.ofList name with
      | "YAML" => versionDirective c
      | "TAG" => handleDirective c
      | _ => .ok (.other, c.skipWhile (!isBreak ·))
    .ok (d, ← emptyLineRest c)

def anchorName (c : Cursor) : Except SyntaxFault (String × Cursor) :=
  let (name, c) := c.next.span isNameChar
  let ends := endsWord c.peek || c.peek.any ("?:,]\x7d%@\x60".toList.contains ·)
  if name.isEmpty || !ends then .error .malformed else .ok (String.ofList name, c)

/-- Whether a tag has a handle: another exclamation mark comes before the next blank. -/
def hasHandle (cs : List Char) : Bool :=
  (cs.takeWhile fun c => c != '!' && c != ' ' && !isBreak c).length <
    (cs.takeWhile fun c => c != ' ' && !isBreak c).length

def tag (c : Cursor) : Except SyntaxFault (Token × Cursor) := do
  let (t, c) ←
    if c.peekAt 1 = some '<' then do
      let (uri, c) ← tagUri (c.skip 2)
      if c.peek = some '>' then .ok (Token.tag none uri, c.next) else .error .malformed
    else if endsWord (c.peekAt 1) then .ok (.tag none "!", c.next)
    else do
      let (handle, c) ← if hasHandle (c.rest.drop 1) then tagHandle c else .ok ("!", c.next)
      let (uri, c) ← tagUri c
      .ok (.tag (some handle) uri, c)
  if endsItem c.peek then .ok (t, c) else .error .malformed

/-- Ends what stands before a mark at the left margin. -/
def atMargin (l : Lexer) : Except SyntaxFault Lexer := do
  let l ← (l.unwind (-1)).dropCandidate
  .ok { l with keyAllowed := false }

def openBracket (l : Lexer) (t : Token) : Except SyntaxFault Lexer := do
  let l ← l.addCandidate
  .ok { l.emitOver 1 t with depth := l.depth + 1, keyAllowed := true }

def closeBracket (l : Lexer) (t : Token) : Except SyntaxFault Lexer :=
  if l.depth = 0 then .error .malformed
  else do
    let l ← l.dropCandidate
    .ok { l.emitOver 1 t with depth := l.depth - 1, keyAllowed := false }

def comma (l : Lexer) : Except SyntaxFault Lexer := do
  let l ← l.dropCandidate
  .ok { l.emitOver 1 .comma with keyAllowed := true }

/-- A mark that may open a block: of an item or of a key. -/
def blockMark (l : Lexer) (opening mark : Token) (keyAfter : Bool) : Except SyntaxFault Lexer :=
  if l.depth = 0 ∧ ¬ l.keyAllowed then .error .malformed
  else do
    let l := if l.depth = 0 then l.openBlock l.cursor.column l.count opening else l
    let l ← l.dropCandidate
    .ok { l.emitOver 1 mark with keyAllowed := keyAfter }

/-- A colon: what stands before it is a key if it can be one. -/
def colon (l : Lexer) : Except SyntaxFault Lexer :=
  match l.candidate? with
  | some k =>
    let l := l.withoutCandidate.insertAt k.number .key
    let l := if l.depth = 0 then l.openBlock k.column k.number .mappingStart else l
    .ok { l.emitOver 1 .value with keyAllowed := false }
  | none => l.blockMark .mappingStart .value (l.depth == 0)

def emitCandidate (l : Lexer) (read : Cursor → Except SyntaxFault (Token × Cursor)) :
    Except SyntaxFault Lexer := do
  let l ← l.addCandidate
  let (t, cursor) ← read l.cursor
  .ok { l.emit t with cursor, keyAllowed := false }

def block (l : Lexer) (folded : Bool) : Except SyntaxFault Lexer := do
  let l ← l.dropCandidate
  let (text, cursor) ← blockScalar folded l.indent l.cursor
  .ok { l.emit (.scalar text false) with cursor, keyAllowed := true }

def plain (l : Lexer) : Except SyntaxFault Lexer := do
  let l ← l.addCandidate
  let (text, broken, cursor) := plainScalar (l.depth != 0) (l.indent + 1) l.cursor
  .ok { l.emit (.scalar text true) with cursor, keyAllowed := broken }

def startsPlain (l : Lexer) (ch : Char) : Bool :=
  !(isBlank ch || isBreak ch || "-?:,[]\x7b\x7d#&*!|>'\"%@\x60".toList.contains ch) ||
    (!endsWord (l.cursor.peekAt 1) && (ch == '-' || (l.depth == 0 && (ch == '?' || ch == ':'))))

def fetch (l : Lexer) (ch : Char) : Except SyntaxFault Lexer :=
  let margin := l.cursor.column == 0
  let wordEnds := endsWord (l.cursor.peekAt 1)
  let flow := l.depth != 0
  if ch == '%' && margin then do
    let l ← l.atMargin
    let (d, cursor) ← directive l.cursor
    .ok { l.emit (.directive d) with cursor }
  else if ch == '-' && margin && l.cursor.atMarker '-' then do
    let l ← l.atMargin
    .ok (l.emitOver 3 .documentStart)
  else if ch == '.' && margin && l.cursor.atMarker '.' then do
    let l ← l.atMargin
    .ok (l.emitOver 3 .documentEnd)
  else if ch == '[' then l.openBracket .bracketOpen
  else if ch == '\x7b' then l.openBracket .braceOpen
  else if ch == ']' then l.closeBracket .bracketClose
  else if ch == '\x7d' then l.closeBracket .braceClose
  else if ch == ',' then l.comma
  else if ch == '-' && wordEnds then l.blockMark .sequenceStart .dash true
  else if ch == '?' && (flow || wordEnds) then l.blockMark .mappingStart .key (!flow)
  else if ch == ':' && (flow || wordEnds) then l.colon
  else if ch == '*' then
    l.emitCandidate fun c => (anchorName c).map fun p => (.reference p.1, p.2)
  else if ch == '&' then
    l.emitCandidate fun c => (anchorName c).map fun p => (.anchor p.1, p.2)
  else if ch == '!' then l.emitCandidate tag
  else if ch == '|' && !flow then l.block false
  else if ch == '>' && !flow then l.block true
  else if ch == '\'' || ch == '"' then
    l.emitCandidate fun c => (quotedScalar (ch == '"') c).map fun p => (.scalar p.1 false, p.2)
  else if l.startsPlain ch then l.plain
  else .error .malformed

/-- The tokens, in reverse, that are settled: those before the first that may still turn out to be
a key. -/
def settled (l : Lexer) : List Token :=
  let open_ := l.candidates.filter fun p => !l.isStale p.2
  let first := (open_.map (·.2.number)).foldl min l.count
  l.tokens.drop (l.count - first)

/-- Cuts the rest of a text. Where it cannot be read on, the fault follows the tokens that were
settled before. -/
def run : Nat → Lexer → List Token
  | 0, l => (l.tokens.reverse)
  | fuel + 1, l =>
    let before := l.settled
    let stop (f : SyntaxFault) : List Token := (Token.broken f :: before).reverse
    let l := toNextToken (l.cursor.rest.length + 1) l
    match l.dropStale with
    | .error f => stop f
    | .ok l =>
      let l := l.unwind l.cursor.column
      match l.cursor.peek with
      | none =>
        match (l.unwind (-1)).dropCandidate with
        | .ok l => l.tokens.reverse
        | .error f => stop f
      | some ch =>
        match l.fetch ch with
        | .ok l => run fuel l
        | .error f => stop f

end Lexer

/-- The tokens of a text. A byte order mark at its start does not count. -/
def tokens (text : List Char) : List Token :=
  let start := Lexer.start text
  let cursor := if text.head? = some byteOrderMark then start.cursor.next else start.cursor
  Lexer.run (cursor.left + 1) { start with cursor }

end RamlBridge.Yaml

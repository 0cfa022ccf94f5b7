import RamlBridge.Console.Emoji
import RamlBridge.Console.Style

/-!
Marked up texts: names in brackets ask for a style and are not shown, and neither are the marks
that keep a bracket from doing so.
-/
namespace RamlBridge.Console

/-- A part of a marked up text: characters to be shown, or the start or the end of a style. What
follows an equals sign in a start are parameters of the style. -/
inductive Piece where
  | shown (cs : List Char)
  | opening (style : String) (parameters : Option String)
  | closing (style : String)
deriving DecidableEq, Repr

/-- Why a text is not marked up: a style ends that did not start, or has parameters that cannot be
read, or the place of a number in its name is empty. -/
inductive MarkupFault where
  | unopened
  | parameters
  | noNumber
deriving DecidableEq, Repr, Inhabited

def startsStyle (c : Char) : Bool :=
  ('a' ≤ c && c ≤ 'z') || c == '#' || c == '/' || c == '@'

/-- The text in brackets after an opening one, if it can be a style, and what follows it. -/
def style? : List Char → Option (List Char × List Char)
  | [] => none
  | c :: rest =>
    let ends (c : Char) : Bool := c == '[' || c == ']'
    match startsStyle c, rest.dropWhile (!ends ·) with
    | true, ']' :: rest' => some (c :: rest.takeWhile (!ends ·), rest')
    | _, _ => none

def stylePiece (style : List Char) : Piece :=
  let (name, parameters) := Text.cut '=' style
  match name with
  | '/' :: name => .closing (Text.strip (String.ofList name))
  | name => .opening (String.ofList name) (parameters.map String.ofList)

/-- Characters without a backslash in front of a bracket. -/
def plainText : List Char → List Char
  | '\\' :: '[' :: rest => '[' :: plainText rest
  | c :: rest => c :: plainText rest
  | [] => []

/-- The piece of the characters in hand, which come in reverse, if there are any. -/
def shownBefore (inHand : List Char) : List Piece :=
  if inHand.isEmpty then [] else [.shown (plainText inHand.reverse)]

/-- A text cut into pieces, behind characters in hand, which come in reverse. Two backslashes before
a style are one, and a single one keeps it from being a style. -/
def pieces (inHand : List Char) : Nat → List Char → List Piece
  | 0, _ => shownBefore inHand
  | _, [] => shownBefore inHand
  | fuel + 1, c :: rest =>
    let slashes := (c :: rest).takeWhile (· == '\\')
    let found := match (c :: rest).dropWhile (· == '\\') with
      | '[' :: after => style? after
      | _ => none
    match found with
    | some (style, rest) =>
      shownBefore inHand ++ [.shown (List.replicate (slashes.length / 2) '\\'),
        if slashes.length % 2 = 1 then .shown ('[' :: style ++ [']']) else stylePiece style] ++
        pieces [] fuel rest
    | none => pieces (c :: inHand) fuel rest

/-- A style that is open: its normal name and its parameters. -/
abbrev OpenStyle := String × Option String

/-- Takes the style away that was opened last under a name, or the last one for an empty name. -/
def close? (style : String) : List OpenStyle → Option (OpenStyle × List OpenStyle)
  | [] => none
  | s :: rest =>
    if style = "" ∨ s.1 = style then some (s, rest)
    else (close? style rest).map fun p => (p.1, s :: p.2)

/-- Whether characters are a value that parameters can hold: a number, a text in quotes, or the
name of a constant. -/
def isParameter (cs : List Char) : Bool :=
  let cs := Text.trimChars Text.isBlank cs
  let unsigned := if cs.head? = some '-' ∨ cs.head? = some '+' then cs.tail else cs
  let (whole, places) := Text.cut '.' unsigned
  let isNumber := unsigned.any Char.isDigit && whole.all Char.isDigit &&
    (places.getD []).all Char.isDigit &&
    (places.isSome || whole.all (· == '0') || whole.head? != some '0')
  let isQuoted (quote : Char) : Bool :=
    match between? (String.singleton quote) (String.singleton quote) cs with
    | some inside => !inside.contains quote && !inside.contains '\\' && !inside.contains '\n'
    | none => false
  isNumber || isQuoted '\'' || isQuoted '"' ||
    ["None", "True", "False"].contains (String.ofList cs)

/-- Whether the parameters of a style that starts with an at sign can be read: a name, values in
parentheses behind a name, or a value. -/
def areParameters (parameters : String) : Bool :=
  let cs := Text.trimChars Text.isBlank parameters.toList
  let isNameChar (c : Char) : Bool := c.isAlphanum || c == '_' || c == '.'
  let rest := cs.dropWhile isNameChar
  match between? "(" ")" rest with
  | some inside =>
    let values := Text.split ',' inside
    (Text.trimChars Text.isBlank inside).isEmpty ||
      ((if values.length > 1 ∧ (values.getLastD []).all Text.isBlank then values.dropLast
        else values).all isParameter)
  | none => rest.isEmpty || isParameter cs

/-- The styles that are open after one of them is closed; the one opened last comes first. -/
def closed (style : String) (styles : List OpenStyle) : Except MarkupFault (List OpenStyle) :=
  match normalName? style with
  | none => .error .noNumber
  | some name =>
    match close? (if style = "" then "" else name) styles with
    | none => .error .unopened
    | some ((name, parameters), rest) =>
      if name.startsWith "@" ∧ parameters.any fun p => p ≠ "" ∧ !areParameters p then
        .error .parameters
      else .ok rest

/-- What is shown of pieces; the styles that are open come last first. -/
def shownFrom (styles : List OpenStyle) : List Piece → Except MarkupFault (List Char)
  | [] => .ok []
  | .shown cs :: rest => do
    let after ← shownFrom styles rest
    .ok (withPictures cs.length cs ++ after)
  | .opening style parameters :: rest =>
    match normalName? style with
    | some name => shownFrom ((name, parameters) :: styles) rest
    | none => .error .noNumber
  | .closing style :: rest => do shownFrom (← closed style styles) rest

def shown (text : String) : Except MarkupFault (List Char) :=
  let cs := text.toList
  shownFrom [] (pieces [] (cs.length + 1) cs)

end RamlBridge.Console

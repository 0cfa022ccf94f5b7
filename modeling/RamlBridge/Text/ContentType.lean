import RamlBridge.Text.Blank
import RamlBridge.Text.Case
import RamlBridge.Text.Pieces

/-!
Content types: parameters between semicolons, and the encoding that one of them names. Semicolons
in quotes do not count.
-/
namespace RamlBridge.Text.ContentType

/-- The quotes that open or close something: those without a backslash in front. -/
def quoteCount (before : Option Char) : List Char → Nat
  | [] => 0
  | c :: rest => (if c = '"' ∧ before ≠ some '\\' then 1 else 0) + quoteCount (some c) rest

/-- The pieces between semicolons, put together again where a quote was still open. -/
def joinQuoted : List (List Char) → List (List Char)
  | [] => []
  | [piece] => [piece]
  | piece :: next :: rest =>
    if quoteCount none piece % 2 = 1 then joinQuoted ((piece ++ ';' :: next) :: rest)
    else piece :: joinQuoted (next :: rest)
termination_by pieces => pieces.length

def trimmed (cs : List Char) : List Char := trimChars isBlank cs

/-- The name and the value of a parameter; one without a value has the empty one. -/
def parameter (piece : List Char) : List Char × List Char :=
  let (name, value) := cut '=' piece
  ((trimmed name).map Char.toLower, trimmed (value.getD []))

/-- The name of the encoding that a content type of plain characters names. Quotes around it stay:
they do not count in the name of an encoding. -/
def charsetName? (contentType : List Char) : Option String :=
  let parameters := (joinQuoted (split ';' contentType)).map parameter
  (parameters.find? fun p => p.1 = "charset".toList).map fun p => String.ofList p.2

end RamlBridge.Text.ContentType

import RamlBridge.Decimal.Digits
import RamlBridge.Text.Hex
import RamlBridge.Text.Surrogate
import RamlBridge.Text.Visible

/-!
Text quoted inside a message: in single quotes, or in double quotes if it holds single quotes
only; the quote in use, the backslash and invisible characters are written as escapes.
-/
namespace RamlBridge.Text

/-- An escape of a code point, in two, four or eight digits as it needs. -/
def codeEscape (n : Nat) : List Char :=
  if n < 0x100 then '\\' :: 'x' :: hexDigits 2 n
  else if n < 0x10000 then '\\' :: 'u' :: hexDigits 4 n
  else '\\' :: 'U' :: hexDigits 8 n

def quotedChar (quote c : Char) : List Char :=
  if c == quote || c == '\\' then ['\\', c]
  else if c == '\n' then ['\\', 'n']
  else if c == '\r' then ['\\', 'r']
  else if c == '\t' then ['\\', 't']
  else if isVisible c then [c]
  else codeEscape (codeOf c)

def quoteFor (cs : List Char) : Char :=
  if '\'' ∈ cs ∧ '"' ∉ cs then '"' else '\''

def quoted (s : String) : String :=
  let cs := s.toList
  let quote := quoteFor cs
  String.ofList (quote :: (cs.flatMap (quotedChar quote) ++ [quote]))

/-- Bytes shown as a quoted text of ASCII characters, marked by a leading letter. -/
def quotedBytes (bytes : List UInt8) : String :=
  let cs := bytes.map fun b => Char.ofNat b.toNat
  let quote := quoteFor cs
  let shown (c : Char) : List Char :=
    if c.toNat < 0x7f then quotedChar quote c else codeEscape c.toNat
  String.ofList ('b' :: quote :: (cs.flatMap shown ++ [quote]))

end RamlBridge.Text

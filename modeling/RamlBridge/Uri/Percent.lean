import RamlBridge.Text.Charset
import RamlBridge.Text.Quoted

/-!
Escapes in URLs: a byte as a percent sign and two digits. Plain characters that are not escaped
read back as they are.
-/
namespace RamlBridge.Uri

/-- One byte as a percent sign and two digits. -/
def percentByte (b : UInt8) : List Char :=
  '%' :: (Text.hexDigits 2 b.toNat).map Char.toUpper

def percentEscaped (escapes : Char → Bool) (cs : List Char) : List Char :=
  cs.flatMap fun c =>
    if escapes c then (String.singleton c).toUTF8.toList.flatMap percentByte else [c]

/-- The bytes of a text of plain characters, with its escapes taken as the bytes they stand for. A
percent sign that begins no escape stands for itself. -/
def unescapedBytes : List Char → List UInt8
  | [] => []
  | '%' :: a :: b :: rest =>
    match Text.hexValue? a, Text.hexValue? b with
    | some m, some n => UInt8.ofNat (16 * m + n) :: unescapedBytes rest
    | _, _ => '%'.toUInt8 :: unescapedBytes (a :: b :: rest)
  | c :: rest => c.toUInt8 :: unescapedBytes rest

/-- The text that a text of plain characters with escapes stands for. -/
def percentUnescaped (cs : List Char) : List Char :=
  Text.utf8Replacing (unescapedBytes cs)

end RamlBridge.Uri

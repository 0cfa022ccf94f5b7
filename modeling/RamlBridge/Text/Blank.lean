/-!
Blank characters, and text without the blanks at its ends.
-/
namespace RamlBridge.Text

/-- The white space of Unicode, and the four separators of information U+001C to U+001F. -/
def isBlank (c : Char) : Bool :=
  let n := c.toNat
  (0x9 ≤ n && n ≤ 0xd) || (0x1c ≤ n && n ≤ 0x20) || n == 0x85 || n == 0xa0 || n == 0x1680 ||
    (0x2000 ≤ n && n ≤ 0x200a) || n == 0x2028 || n == 0x2029 || n == 0x202f || n == 0x205f ||
    n == 0x3000

def trimChars (p : Char → Bool) (cs : List Char) : List Char :=
  ((cs.dropWhile p).reverse.dropWhile p).reverse

def strip (s : String) : String :=
  String.ofList (trimChars isBlank s.toList)

/-- Text without blanks at its ends and then without the quotes that enclose it. -/
def unquoted (s : String) : String :=
  String.ofList (trimChars (fun c => c == '"' || c == '\'') (trimChars isBlank s.toList))

end RamlBridge.Text

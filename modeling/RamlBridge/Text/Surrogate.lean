/-!
Halves of surrogate pairs that stand alone in a text. They are code points but no characters, so
a text keeps each as the private character that lies 0x100000 above it.
-/
namespace RamlBridge.Text

def isHalfCode (n : Nat) : Bool :=
  0xd800 ≤ n && n < 0xe000

/-- The first of the private characters that stand for halves. -/
def halfBase : Nat := 0x100000

/-- The character that a text keeps for a code point. -/
def ofCode (n : Nat) : Char :=
  Char.ofNat (if isHalfCode n then halfBase + n else n)

def isHalf (c : Char) : Bool :=
  isHalfCode (c.toNat - halfBase)

def codeOf (c : Char) : Nat :=
  if isHalf c then c.toNat - halfBase else c.toNat

/-- Whether a text cannot be encoded, since it holds a half. -/
def holdsHalf (s : String) : Bool :=
  s.toList.any isHalf

/-- A text with three replacement characters for each half: what is read of the three bytes that
its code point would be encoded in. -/
def withoutHalves (s : String) : String :=
  if holdsHalf s then
    String.ofList (s.toList.flatMap fun c =>
      if isHalf c then List.replicate 3 (Char.ofNat 0xfffd) else [c])
  else s

end RamlBridge.Text

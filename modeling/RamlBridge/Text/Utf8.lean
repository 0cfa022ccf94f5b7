import RamlBridge.Text.Quoted

/-!
Bytes read as UTF-8, with the place and the reason of the first fault.
-/
namespace RamlBridge.Text

inductive Utf8Reason where
  | startByte
  | continuationByte
  | endOfData
deriving DecidableEq, Repr, Inhabited

def Utf8Reason.text : Utf8Reason → String
  | .startByte => "invalid start byte"
  | .continuationByte => "invalid continuation byte"
  | .endOfData => "unexpected end of data"

/-- The first byte of what could not be decoded, where it stands, and how many bytes it is. -/
structure Utf8Fault where
  byte : UInt8
  position : Nat
  length : Nat
  reason : Utf8Reason
deriving DecidableEq, Repr, Inhabited

def Utf8Fault.message (f : Utf8Fault) : String :=
  "'utf-8' codec can't decode " ++
    (if f.length = 1 then
      "byte 0x" ++ String.ofList (hexDigits 2 f.byte.toNat) ++ " in position " ++
        Decimal.text f.position
    else
      "bytes in position " ++ Decimal.text f.position ++ "-" ++
        Decimal.text (f.position + f.length - 1)) ++
    ": " ++ f.reason.text

def isContinuation (b : UInt8) : Bool :=
  0x80 ≤ b && b < 0xc0

/-- Whether a byte can follow a first byte: no character is written in more bytes than it needs,
none is a surrogate, and none lies beyond the last one. -/
def isSecond (a b : UInt8) : Bool :=
  isContinuation b && !(a == 0xe0 && b < 0xa0) && !(a == 0xed && 0xa0 ≤ b) &&
    !(a == 0xf0 && b < 0x90) && !(a == 0xf4 && 0x90 ≤ b)

/-- The six bits that a byte after the first carries. -/
def payload (b : UInt8) : Nat := b.toNat % 0x40

def consDecoded (n : Nat) (tail : Except Utf8Fault (List Char)) : Except Utf8Fault (List Char) :=
  tail.map (Char.ofNat n :: ·)

def decodeFrom (position : Nat) : List UInt8 → Except Utf8Fault (List Char)
  | [] => .ok []
  | a :: rest =>
    let fault (length : Nat) (reason : Utf8Reason) : Except Utf8Fault (List Char) :=
      .error ⟨a, position, length, reason⟩
    if a < 0x80 then consDecoded a.toNat (decodeFrom (position + 1) rest)
    else if a < 0xc2 || 0xf5 ≤ a then fault 1 .startByte
    else
      match rest with
      | [] => fault 1 .endOfData
      | b :: rest =>
        if !isSecond a b then fault 1 .continuationByte
        else if a < 0xe0 then
          consDecoded (a.toNat % 0x20 * 0x40 + payload b) (decodeFrom (position + 2) rest)
        else
          match rest with
          | [] => fault 2 .endOfData
          | c :: rest =>
            if !isContinuation c then fault 2 .continuationByte
            else if a < 0xf0 then
              consDecoded ((a.toNat % 0x10 * 0x40 + payload b) * 0x40 + payload c)
                (decodeFrom (position + 3) rest)
            else
              match rest with
              | [] => fault 3 .endOfData
              | d :: rest =>
                if !isContinuation d then fault 3 .continuationByte
                else
                  consDecoded
                    (((a.toNat % 0x08 * 0x40 + payload b) * 0x40 + payload c) * 0x40 + payload d)
                    (decodeFrom (position + 4) rest)

def decodeUtf8 (bytes : List UInt8) : Except Utf8Fault (List Char) :=
  decodeFrom 0 bytes

end RamlBridge.Text

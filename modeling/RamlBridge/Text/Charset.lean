import RamlBridge.Text.CodePage
import RamlBridge.Text.DoubleByte.Sets
import RamlBridge.Text.Escaped
import RamlBridge.Text.Pieces
import RamlBridge.Text.Utf7
import RamlBridge.Text.Utf8

/-!
The encoding of a text by its name, and texts decoded with the replacement character where their
bytes stand for none.
-/
namespace RamlBridge.Text

/-- Why an encoding yields no text: it does not read these bytes, its results are bytes as well, or
it works on texts only. -/
inductive CharsetFault where
  | unreadable
  | bytesOnly
  | textsOnly
deriving DecidableEq, Repr

/-- An encoding of texts. One in units of several bytes has the most significant byte first or last,
or says so itself at the start of the text. Some names are those of encodings that read no bytes. -/
inductive Charset where
  | page (p : CodePage)
  | doubleByte (s : DoubleByteSet)
  | utf7
  | escaped (onlyLongCodes : Bool)
  | useless (fault : CharsetFault)
  | utf8 (marked : Bool)
  | utf16 (bigEndian : Option Bool)
  | utf32 (bigEndian : Option Bool)
deriving Repr, Inhabited

/-- Bytes as UTF-8; the fuel is their count. -/
def decodeReplacing : Nat → List UInt8 → List Char
  | 0, _ => []
  | fuel + 1, bytes =>
    match decodeUtf8 bytes with
    | .ok cs => cs
    | .error f =>
      (decodeUtf8 (bytes.take f.position)).toOption.getD [] ++ replacement ::
        decodeReplacing fuel (bytes.drop (f.position + f.length))

def utf8Replacing (bytes : List UInt8) : List Char :=
  decodeReplacing (bytes.length + 1) bytes

/-- Numbers of two bytes each; a byte that is left over stands for none. -/
def units16 (bigEndian : Bool) : List UInt8 → List (Option Nat)
  | [] => []
  | [_] => [none]
  | a :: b :: rest =>
    some (if bigEndian then a.toNat * 256 + b.toNat else b.toNat * 256 + a.toNat) ::
      units16 bigEndian rest

/-- The characters of units of sixteen bits. A first half at the end takes what is left over. -/
def charsOfUnits : List (Option Nat) → List Char
  | [] => []
  | none :: rest => replacement :: charsOfUnits rest
  | some n :: rest =>
    if 0xd800 ≤ n ∧ n < 0xdc00 then
      match rest with
      | some m :: rest =>
        if 0xdc00 ≤ m ∧ m < 0xe000 then
          Char.ofNat (0x10000 + (n - 0xd800) * 0x400 + (m - 0xdc00)) :: charsOfUnits rest
        else replacement :: charsOfUnits (some m :: rest)
      | _ => [replacement]
    else if 0xdc00 ≤ n ∧ n < 0xe000 then replacement :: charsOfUnits rest
    else Char.ofNat n :: charsOfUnits rest

def charsOfQuads (bigEndian : Bool) : List UInt8 → List Char
  | [] => []
  | a :: b :: c :: d :: rest =>
    let bytes := if bigEndian then [a, b, c, d] else [d, c, b, a]
    let n := bytes.foldl (fun n x => n * 256 + x.toNat) 0
    (if n.isValidChar then Char.ofNat n else replacement) :: charsOfQuads bigEndian rest
  | _ => [replacement]

namespace Charset

/-- A name in the form in which encodings are listed: an underscore for every run of other
characters inside it. -/
def normalized (name : String) : String :=
  let cs := name.toList.map fun c => if c.isAlphanum || c == '.' then c.toLower else '_'
  String.ofList (Text.join '_' ((Text.split '_' cs).filter (!·.isEmpty)))

def utf8Names : List String :=
  ["utf_8", "u8", "utf", "utf8", "utf8_ucs2", "utf8_ucs4", "cp65001"]

def otherNames : List (List String × Charset) :=
  [(["utf_7", "u7", "utf7", "unicode_1_1_utf_7"], .utf7),
    (["unicode_escape"], .escaped false),
    (["raw_unicode_escape"], .escaped true),
    (["idna", "undefined"], .useless .unreadable),
    (["base64_codec", "base64", "base_64", "bz2_codec", "bz2", "hex_codec", "hex", "quopri_codec",
      "quopri", "quoted_printable", "quotedprintable", "uu_codec", "uu", "zlib_codec", "zip",
      "zlib"], .useless .bytesOnly),
    (["rot_13", "rot13"], .useless .textsOnly),
    (["utf_16", "u16", "utf16"], .utf16 none),
    (["utf_16_be", "unicodebigunmarked", "utf_16be"], .utf16 (some true)),
    (["utf_16_le", "unicodelittleunmarked", "utf_16le"], .utf16 (some false)),
    (["utf_32", "u32", "utf32"], .utf32 none),
    (["utf_32_be", "utf_32be"], .utf32 (some true)),
    (["utf_32_le", "utf_32le"], .utf32 (some false))]

def ofName? (name : String) : Option Charset :=
  let name := normalized name
  if utf8Names.contains name then some (.utf8 false)
  else if name = "utf_8_sig" then some (.utf8 true)
  else
    match otherNames.find? fun p => p.1.contains name with
    | some p => some p.2
    | none =>
      match DoubleByteSet.ofName? name with
      | some s => some (.doubleByte s)
      | none => (CodePage.all.find? fun p => p.names.contains name).map .page

def decode (charset : Charset) (bytes : List UInt8) : Except CharsetFault (List Char) :=
  match charset with
  | .page p => .ok (p.decode bytes)
  | .doubleByte s => .ok (s.decode bytes)
  | .utf7 => .ok (Utf7.decode bytes)
  | .escaped onlyLongCodes => .ok (Escaped.decode onlyLongCodes bytes)
  | .useless fault => .error fault
  | .utf8 false => .ok (utf8Replacing bytes)
  | .utf8 true =>
    .ok (utf8Replacing (if bytes.take 3 = [0xef, 0xbb, 0xbf] then bytes.drop 3 else bytes))
  | .utf16 (some bigEndian) => .ok (charsOfUnits (units16 bigEndian bytes))
  | .utf32 (some bigEndian) => .ok (charsOfQuads bigEndian bytes)
  | .utf16 none =>
    match bytes with
    | 0xff :: 0xfe :: rest => .ok (charsOfUnits (units16 false rest))
    | 0xfe :: 0xff :: rest => .ok (charsOfUnits (units16 true rest))
    | _ =>
      if bytes.length < 2 then .ok (charsOfUnits (units16 false bytes)) else .error .unreadable
  | .utf32 none =>
    match bytes with
    | 0xff :: 0xfe :: 0 :: 0 :: rest => .ok (charsOfQuads false rest)
    | 0 :: 0 :: 0xfe :: 0xff :: rest => .ok (charsOfQuads true rest)
    | _ => if bytes.length < 4 then .ok (charsOfQuads false bytes) else .error .unreadable

end Charset

end RamlBridge.Text

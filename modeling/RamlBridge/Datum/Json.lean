import RamlBridge.Datum.Display
import RamlBridge.Json.Printer

/-!
Values of a document as JSON: with every kind of scalar brought to a JSON one, or only where the
value is a JSON value already. Either is told by its first fault if it fails.
-/
namespace RamlBridge

/-- Why a value is no JSON value that has a text: it is of another kind, or it holds an integer of
too many digits. -/
inductive JsonFault where
  | notJson
  | integerTooLong
deriving DecidableEq, Repr, Inhabited

/-- Why a value cannot be listed as JSON: bytes that encode no text, a name that cannot be encoded
or has too many digits, or too many levels. -/
inductive ListingFault where
  | undecodable
  | unencodable
  | integerTooLong
  | tooDeep
deriving DecidableEq, Repr, Inhabited

namespace Scalar

/-- A scalar as a JSON value: what is no finite number is null, dates are in figures, and bytes are
the text that they encode. -/
def toJson : Scalar → Json
  | .null => .null
  | .bool b => .bool b
  | .int n => .int n
  | .float x => if x.isFinite then .float x else .null
  | .text s => .text s
  | .bytes content => .text ((String.fromUTF8? ⟨content.toArray⟩).getD "")
  | .date d => .text (String.ofList d.iso)
  | .clock t => .text (String.ofList t.iso)
  | .moment m => .text (String.ofList (m.iso 'T' ['Z']))
  | .pair a b => .array [toJson a, toJson b]

def memberName : Scalar → String
  | .null => "None"
  | .bool true => "true"
  | .bool false => "false"
  | .int n => String.ofList (Decimal.integer n)
  | .float x => if x.isFinite then String.ofList (messageFloat.write x) else "None"
  | .text s => s
  | .bytes content => (String.fromUTF8? ⟨content.toArray⟩).getD ""
  | .date d => String.ofList d.iso
  | .clock t => String.ofList t.iso
  | .moment m => String.ofList (m.iso 'T' ['Z'])
  | .pair a b => memberName a ++ "," ++ memberName b

def bytesFault? (content : List UInt8) : Option ListingFault :=
  if (String.fromUTF8? ⟨content.toArray⟩).isSome then none else some .undecodable

/-- What keeps a key from being the name of a member. -/
def nameFault? : Scalar → Option ListingFault
  | .int n => if Decimal.isShort n then none else some .integerTooLong
  | .text s => if Text.holdsHalf s then some .unencodable else none
  | .bytes content => bytesFault? content
  | .pair a b => (nameFault? a).or (nameFault? b)
  | _ => none

def listingFault? : Nat → Scalar → Option ListingFault
  | 0, _ => some .tooDeep
  | _ + 1, .bytes content => bytesFault? content
  | levels + 1, .pair a b => (listingFault? levels a).or (listingFault? levels b)
  | _ + 1, _ => none

def jsonInteger (n : Int) : Except JsonFault String :=
  match Decimal.integerText? n with
  | some t => .ok t
  | none => .error .integerTooLong

def jsonName : Scalar → Except JsonFault String
  | .null => .ok "null"
  | .bool true => .ok "true"
  | .bool false => .ok "false"
  | .int n => jsonInteger n
  | .float x => .ok (String.ofList (Json.floatFormat.write x))
  | .text s => .ok s
  | _ => .error .notJson

def json : Scalar → Except JsonFault Json
  | .null => .ok .null
  | .bool b => .ok (.bool b)
  | .int n => if Decimal.isShort n then .ok (.int n) else .error .integerTooLong
  | .float x => .ok (.float x)
  | .text s => .ok (.text s)
  | _ => .error .notJson

end Scalar

namespace Datum

/-- The levels that a free-form value can have. -/
def mostLevels : Nat := 255

mutual

/-- What keeps a value from being listed in a number of levels: its first fault, the name of a
member before its value. -/
def listingFault? : Nat → Datum → Option ListingFault
  | 0, _ => some .tooDeep
  | levels + 1, .scalar s => s.listingFault? (levels + 1)
  | levels + 1, .list items => itemsFault? levels items
  | levels + 1, .pair a b => (listingFault? levels a).or (listingFault? levels b)
  | levels + 1, .set members => members.findSome? (Scalar.listingFault? levels)
  | levels + 1, .map entries => entriesFault? levels entries

def itemsFault? (levels : Nat) : List Datum → Option ListingFault
  | [] => none
  | x :: xs => (listingFault? levels x).or (itemsFault? levels xs)

def entriesFault? (levels : Nat) : List (Scalar × Datum) → Option ListingFault
  | [] => none
  | (key, x) :: rest => (key.nameFault?.or (listingFault? levels x)).or (entriesFault? levels rest)

end

/-- What keeps a free-form value from being listed. -/
def freeFault? (d : Datum) : Option ListingFault := d.listingFault? mostLevels

mutual

def toJson : Datum → Json
  | .scalar s => s.toJson
  | .list items => .array (itemsToJson items)
  | .pair a b => .array [toJson a, toJson b]
  | .set members => .array (members.map Scalar.toJson)
  | .map entries => .object (Entries.ofList (entriesToJson entries))

def itemsToJson : List Datum → List Json
  | [] => []
  | x :: xs => toJson x :: itemsToJson xs

def entriesToJson : List (Scalar × Datum) → List (String × Json)
  | [] => []
  | (key, x) :: rest => (key.memberName, toJson x) :: entriesToJson rest

end

mutual

/-- The JSON value that a value is; it has to hold no date, no bytes and no set. -/
def json : Datum → Except JsonFault Json
  | .scalar s => s.json
  | .list items => (itemsJson items).map .array
  | .pair a b => do
    let x ← json a
    let y ← json b
    .ok (.array [x, y])
  | .set _ => .error .notJson
  | .map entries => (entriesJson entries).map .object

def itemsJson : List Datum → Except JsonFault (List Json)
  | [] => .ok []
  | x :: xs => do
    let y ← json x
    let ys ← itemsJson xs
    .ok (y :: ys)

def entriesJson : List (Scalar × Datum) → Except JsonFault (List (String × Json))
  | [] => .ok []
  | (key, x) :: rest => do
    let name ← key.jsonName
    let y ← json x
    let ys ← entriesJson rest
    .ok ((name, y) :: ys)

end

/-- The text of the JSON value that a value is, on one line in ASCII characters. -/
def jsonText (d : Datum) : Except JsonFault String := do
  match (← d.json).write .asciiLine with
  | some t => .ok t
  | none => .error .integerTooLong

end Datum

namespace Json

mutual

/-- A value whose names can be encoded. Where its parts can be listed, only the names outside of
free-form values change. -/
def encodable : Json → Json
  | .array items => .array (encodableItems items)
  | .object members => .object (Entries.ofList (encodableMembers members))
  | v => v

def encodableItems : List Json → List Json
  | [] => []
  | x :: xs => encodable x :: encodableItems xs

def encodableMembers : List (String × Json) → List (String × Json)
  | [] => []
  | (name, x) :: rest => (Text.withoutHalves name, encodable x) :: encodableMembers rest

end

mutual

/-- A value with null in place of the numbers that are not finite. -/
def finiteOnly : Json → Json
  | .float x => if x.isFinite then .float x else .null
  | .array items => .array (finiteItems items)
  | .object members => .object (finiteMembers members)
  | v => v

def finiteItems : List Json → List Json
  | [] => []
  | x :: xs => finiteOnly x :: finiteItems xs

def finiteMembers : List (String × Json) → List (String × Json)
  | [] => []
  | (name, x) :: rest => (name, finiteOnly x) :: finiteMembers rest

end

end Json

end RamlBridge

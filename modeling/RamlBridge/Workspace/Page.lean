import RamlBridge.Packing.Deflate
import RamlBridge.Text.Charset
import RamlBridge.Text.ContentType
import RamlBridge.Text.Surrogate

/-!
Pages: what answers a request.
-/
namespace RamlBridge

structure Page where
  status : Int
  text : String
  headers : List (String × String)
deriving DecidableEq, Repr, Inhabited

namespace Page

def missing : Page := ⟨404, "", []⟩

/-- The value of a header, whose name is given in lower case; the values of one that stands several
times are put together. -/
def header? (p : Page) (name : String) : Option String :=
  match (p.headers.filter fun h => Text.lower h.1 = name).map Prod.snd with
  | [] => none
  | values => some (", ".intercalate values)

/-- Whether a page can be sent: its headers are in plain characters, and its text has bytes. -/
def isEncodable (p : Page) : Bool :=
  let isPlain (s : String) : Bool := s.toList.all fun c => c.toNat < 0x80
  p.headers.all (fun h => isPlain h.1 && isPlain h.2) && !Text.holdsHalf p.text

/-- Bytes without a packing of a kind; none if they are not packed so. Other kinds change nothing.
The long packing begins with two bytes with which no text begins. -/
def unpacked? (kind : String) (bytes : List UInt8) : Option (List UInt8) :=
  if kind = "deflate" then Packing.Deflate.bytes? bytes
  else if kind = "gzip" then if bytes.length < 2 then some [] else none
  else some bytes

/-- The bytes of a page without the packings that its headers name, of which the last one comes off
first. -/
def bytes? (p : Page) : Option (List UInt8) :=
  let kinds := Text.split ',' ((p.header? "content-encoding").getD "").toList
  kinds.foldrM (fun kind bytes => unpacked? (Text.lower (Text.strip (String.ofList kind))) bytes)
    p.text.toUTF8.toList

def isSuccess (p : Page) : Bool := 200 ≤ p.status && p.status < 300

/-- Where a page is to be looked up instead. -/
def target? (p : Page) : Option String :=
  if [301, 302, 303, 307, 308].contains p.status then p.header? "location" else none

/-- The encoding that the text of a page is taken to be in. -/
def charset (p : Page) : Text.Charset :=
  let name := (p.header? "content-type").bind fun t => Text.ContentType.charsetName? t.toList
  (name.bind Text.Charset.ofName?).getD (.utf8 false)

def content (p : Page) (bytes : List UInt8) : Except Text.CharsetFault String :=
  if bytes.isEmpty then .ok "" else (p.charset.decode bytes).map String.ofList

end Page

end RamlBridge

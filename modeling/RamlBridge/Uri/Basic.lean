import RamlBridge.Text.Pieces
import RamlBridge.Text.Case
import RamlBridge.Uri.Address

/-!
The parts of a URI.
-/
namespace RamlBridge

/-- A URI in its parts; a part that is not there is empty. The parameters are what follows a
semicolon in the last segment of the path. -/
structure Uri where
  scheme : String
  authority : String
  path : String
  parameters : String
  query : String
  fragment : String
deriving DecidableEq, Repr, Inhabited

namespace Uri

def schemesWithParameters : List String :=
  ["", "ftp", "hdl", "prospero", "http", "imap", "https", "shttp", "rtsp", "rtspu", "sip", "sips",
    "mms", "sftp", "tel"]

/-- Characters whose compatibility form holds a delimiter of an authority. -/
def disguisedDelimiters : List Nat :=
  [0x2047, 0x2048, 0x2049, 0x2100, 0x2101, 0x2105, 0x2106, 0x2a74, 0xfe13, 0xfe16, 0xfe55, 0xfe56,
    0xfe5f, 0xfe6b, 0xff03, 0xff0f, 0xff1a, 0xff1f, 0xff20]

def isAsciiLetter (c : Char) : Bool := c.isAlpha

def isSchemeChar (c : Char) : Bool :=
  c.isAlphanum || c == '+' || c == '-' || c == '.'

/-- The scheme before the first colon, if it is one, and the characters after it. -/
def splitScheme (cs : List Char) : Option (List Char × List Char) :=
  match Text.cut ':' cs with
  | (c :: rest, some after) =>
    if isAsciiLetter c && rest.all isSchemeChar then some (c :: rest, after) else none
  | _ => none

def splitAuthority : List Char → List Char × List Char
  | '/' :: '/' :: rest =>
    let ends (c : Char) : Bool := c == '/' || c == '?' || c == '#'
    (rest.takeWhile (!ends ·), rest.dropWhile (!ends ·))
  | cs => ([], cs)

/-- Whether an authority can be one: brackets come in pairs around an address, and no character
stands for a delimiter in disguise. -/
def isAuthority (cs : List Char) : Bool :=
  (cs.contains '[' == cs.contains ']') && (!cs.contains '[' || isBracketed cs) &&
    !cs.any fun c => disguisedDelimiters.contains c.toNat

def splitParameters (cs : List Char) : List Char × List Char :=
  let last := Text.afterLast '/' cs
  let before := cs.take (cs.length - last.length)
  match Text.cut ';' last with
  | (segment, some parameters) => (before ++ segment, parameters)
  | (_, none) => (cs, [])

/-- The parts of a URI; the given scheme is taken if it names none. Controls and spaces in front do
not count, nor do tabs and line ends anywhere. -/
def parseWith (scheme text : String) : Option Uri :=
  let cs := (text.toList.dropWhile (·.toNat ≤ 0x20)).filter fun c =>
    !(c == '\t' || c == '\r' || c == '\n')
  let (scheme, rest) := match splitScheme cs with
    | some (name, rest) => (String.ofList (name.map Char.toLower), rest)
    | none => (scheme, cs)
  let (authority, rest) := splitAuthority rest
  if isAuthority authority then
    let (rest, fragment) := Text.cut '#' rest
    let (path, query) := Text.cut '?' rest
    let (path, parameters) :=
      if scheme ∈ schemesWithParameters then splitParameters path else (path, [])
    some ⟨scheme, String.ofList authority, String.ofList path, String.ofList parameters,
      String.ofList (query.getD []), String.ofList (fragment.getD [])⟩
  else none

def parse (text : String) : Option Uri := parseWith "" text

/-- Whether a text is an absolute URL: it has a scheme and an authority. -/
def isUrl (text : String) : Bool :=
  match parse text with
  | some uri => uri.scheme != "" && uri.authority != ""
  | none => false

def hostPort (uri : Uri) : String :=
  String.ofList (Text.afterLast '@' uri.authority.toList)

def portText (uri : Uri) : List Char :=
  let cs := uri.hostPort.toList
  let tail := match Text.cut '[' cs with
    | (_, some bracketed) => ((Text.cut ']' bracketed).2).getD []
    | (_, none) => cs
  ((Text.cut ':' tail).2).getD []

def hasValidPort (uri : Uri) : Bool :=
  let cs := uri.portText
  cs.isEmpty || (cs.all Char.isDigit &&
    cs.foldl (fun n c => min 65536 (10 * n + (c.toNat - '0'.toNat))) 0 < 65536)

end Uri

end RamlBridge

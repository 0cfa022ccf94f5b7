import RamlBridge.Decimal.Numeral
import RamlBridge.Domain.Name
import RamlBridge.Uri.Basic
import RamlBridge.Uri.Percent

/-!
The URL of a request: its parts in the form in which they are sent.
-/
namespace RamlBridge.Uri

/-- The URL of a request. A host that is an address of groups stands without its brackets; an empty
part other than query and fragment is not there. -/
structure Request where
  scheme : List Char
  user : List Char
  host : List Char
  port : Option Int
  path : List Char
  query : Option (List Char)
  fragment : Option (List Char)
deriving DecidableEq, Repr, Inhabited

/-- Why a text is no URL of a request: its form, or a character of it that has no bytes. -/
inductive RequestFault where
  | malformed
  | unencodable
deriving DecidableEq, Repr, Inhabited

/-- Characters that no part of a request may hold as they are. -/
def isAlwaysEscaped (c : Char) : Bool :=
  c.toNat ≤ 0x20 || 0x7f ≤ c.toNat || c == '"' || c == '<' || c == '>'

def escapesInPath (c : Char) : Bool :=
  isAlwaysEscaped c || "#?\x60\x7b\x7d".toList.contains c

def escapesInUser (c : Char) : Bool :=
  escapesInPath c || "/;=@[\\]^|".toList.contains c

def escapesInQuery (c : Char) : Bool := isAlwaysEscaped c || c == '#'

def escapesInFragment (c : Char) : Bool := isAlwaysEscaped c || c == '\x60'

def escapesInHost (c : Char) : Bool :=
  !(c.isAlphanum || "-._~!$&'()*+,;=\"\x60\x7b\x7d%|\\".toList.contains c)

def escapePart (escapes : Char → Bool) (cs : List Char) : Except RequestFault (List Char) :=
  if cs.any Text.isHalf then .error .unencodable else .ok (percentEscaped escapes cs)

/-- A path without the segments that are dots; two dots take the segment before them away, but
not the empty one at the start. -/
def withoutDots (passed : List (List Char)) : List (List Char) → List (List Char)
  | [] => passed.reverse
  | segment :: rest =>
    if segment = ['.'] then withoutDots passed rest
    else if segment = ['.', '.'] then
      withoutDots (if passed = [[]] then passed else passed.tail) rest
    else withoutDots (segment :: passed) rest

/-- The places that one more character leads to in four runs of digits with any one character
between them: at an even place a run is to begin, at an odd one it is going on. -/
def stepRuns (places : List Nat) (c : Char) : List Nat :=
  (List.range 8).filter fun p =>
    if p % 2 = 1 then c.isDigit && (places.contains (p - 1) || places.contains p)
    else 0 < p && places.contains (p - 1)

def isLikeFourBytes (host : List Char) : Bool :=
  (host.foldl stepRuns [0]).contains 7

def bracketed? (host : List Char) : Option (List Char) :=
  if host.length ≥ 2 ∧ host.head? = some '[' ∧ host.getLast? = some ']' then
    some host.tail.dropLast
  else none

/-- The host as it is sent: an address, or a name in plain characters. -/
def requestHost (host : List Char) : Except RequestFault (List Char) :=
  if isLikeFourBytes host then
    if isFourByteAddress host then .ok host else .error .malformed
  else
    match bracketed? host with
    | some address => if isGroupAddress address then .ok address else .error .malformed
    | none =>
      if host.all fun c => c.toNat < 0x80 then
        .ok (percentEscaped escapesInHost (host.map Char.toLower))
      else
        match Domain.encode (Text.lower (String.ofList host)).toList with
        | .ok name => .ok name
        | .error _ => .error .malformed

def defaultPort? (scheme : List Char) : Option Int :=
  match String.ofList scheme with
  | "http" | "ws" => some 80
  | "https" | "wss" => some 443
  | "ftp" => some 21
  | _ => none

/-- The port that a text names; one that the scheme implies is left out. -/
def requestPort (scheme port : List Char) : Except RequestFault (Option Int) :=
  if port.isEmpty then .ok none
  else
    match Decimal.integerOfScripts? (String.ofList port) with
    | some n => .ok (if defaultPort? scheme = some n then none else some n)
    | none => .error .malformed

namespace Request

def isPath (hasScheme hasAuthority : Bool) (path : List Char) : Bool :=
  if hasAuthority then path.isEmpty || path.head? == some '/'
  else hasScheme || !(path.head? == some ':' || path.take 2 == ['/', '/'])

/-- The URL of a request with its parts brought into the form in which they are sent. -/
def ofParts (scheme user host port path : List Char) (query fragment : Option (List Char)) :
    Except RequestFault Request := do
  let user ← escapePart escapesInUser user
  let host ← requestHost host
  let port ← requestPort scheme port
  let hasAuthority := !user.isEmpty || !host.isEmpty || port.isSome
  if !isPath (!scheme.isEmpty) hasAuthority path then .error .malformed
  let path :=
    if scheme.isEmpty && !hasAuthority then path
    else Text.join '/' (withoutDots [] (Text.split '/' path))
  let path ← escapePart escapesInPath path
  let query ← query.mapM (escapePart escapesInQuery)
  let fragment ← fragment.mapM (escapePart escapesInFragment)
  .ok ⟨scheme.map Char.toLower, user, host, port, path, query, fragment⟩

/-- The scheme before the first colon, which may be empty, and the characters after it. -/
def cutScheme (cs : List Char) : List Char × List Char :=
  match cs with
  | ':' :: rest => ([], rest)
  | _ => (splitScheme cs).getD ([], cs)

/-- The host at the start of what follows the user, and the text of the port after it. -/
def cutHost (cs : List Char) : List Char × List Char :=
  let address := cs.take (cs.length - (Text.afterLast ']' cs).length)
  let host :=
    if cs.head? = some '[' ∧ cs.contains ']' then address else cs.takeWhile (· != ':')
  let rest := cs.drop host.length
  (host, if rest.head? = some ':' then rest.tail else rest)

def isForbidden (c : Char) : Bool := c.toNat < 0x20 || c.toNat = 0x7f

def mostChars : Nat := 65536

def parse (url : String) : Except RequestFault Request :=
  let cs := url.toList
  if mostChars < cs.length || cs.any isForbidden then .error .malformed
  else
    let (cs, fragment) := Text.cut '#' cs
    let (cs, query) := Text.cut '?' cs
    let (scheme, cs) := cutScheme cs
    let (authority, path) := splitAuthority cs
    let hostPort := Text.afterLast '@' authority
    let (host, port) := cutHost hostPort
    ofParts scheme (authority.take (authority.length - hostPort.length - 1)) host port path query
      fragment

def hostText (host : List Char) : List Char :=
  if host.contains ':' then '[' :: (host ++ [']']) else host

def authority (r : Request) : List Char :=
  (if r.user.isEmpty then [] else r.user ++ ['@']) ++ hostText r.host ++
    (match r.port with
      | some n => ':' :: Decimal.integer n
      | none => [])

def markedPart (mark : Char) : Option (List Char) → List Char
  | some part => mark :: part
  | none => []

def plainText (r : Request) : List Char :=
  (if r.scheme.isEmpty then [] else r.scheme ++ [':']) ++
    (if r.authority.isEmpty then [] else '/' :: '/' :: r.authority) ++
    r.path ++ markedPart '?' r.query

def toText (r : Request) : List Char :=
  r.plainText ++ markedPart '#' r.fragment

/-- Whether a URL says by itself where to ask: it has a scheme and a host. -/
def isAbsolute (r : Request) : Bool :=
  !r.scheme.isEmpty && !r.host.isEmpty

def withHost (r : Request) (host : List Char) : Except RequestFault Request :=
  let port := match r.port with
    | some n => Decimal.integer n
    | none => []
  ofParts r.scheme r.user (hostText host) port r.path r.query r.fragment

def withFragment (r : Request) (fragment : List Char) : Except RequestFault Request :=
  if mostChars < fragment.length || fragment.any isForbidden then .error .malformed
  else do
    let plain ← r.withHost r.host
    let fragment ← escapePart escapesInFragment fragment
    .ok { plain with fragment := some fragment }

def fragmentText (r : Request) : List Char :=
  percentUnescaped (r.fragment.getD [])

def hostName (r : Request) : Except Domain.NameFault (List Char) :=
  if Domain.plainMark.isPrefixOf r.host then Domain.decode r.host else .ok r.host

/-- The path of a URL that does not say where to ask, seen from the root. -/
def fromRoot (r : Request) : Request :=
  { scheme := [], user := [], host := [], port := none,
    path := '/' :: r.path.dropWhile (· == '/'), query := r.query, fragment := none }

end Request

end RamlBridge.Uri

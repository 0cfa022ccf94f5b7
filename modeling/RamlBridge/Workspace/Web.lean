import RamlBridge.Entries
import RamlBridge.Uri.Relative
import RamlBridge.Uri.Request
import RamlBridge.Workspace.Page

/-!
The pages that can be had by their URLs.
-/
namespace RamlBridge

/-- The pages by URL, and whether a page that is somewhere else is looked up there. -/
structure Web where
  pages : List (String × Page)
  follows : Bool
deriving Inhabited

/-- Why there is no page for a URL: the URL itself, the name of its host, what was sent, or where
it is to be looked up instead. -/
inductive WebFault where
  | badUrl
  | relativeUrl
  | unencodable
  | badName (fault : Domain.NameFault)
  | undecodable (fault : Text.CharsetFault)
  | badContent
  | badTarget
  | status
  | endless
deriving DecidableEq, Repr

def WebFault.ofRequest : Uri.RequestFault → WebFault
  | .malformed => .badUrl
  | .unencodable => .unencodable

namespace Web

open Uri (Request)

/-- The page that answers a request; a fragment may be part of the name of a page. -/
def page (web : Web) (r : Request) : Except WebFault Page :=
  let found (name : List Char) : Option Page := Entries.find? web.pages (String.ofList name)
  let page := ((found r.toText).orElse fun _ => found r.plainText).getD .missing
  if r.host.any (0x80 ≤ ·.toNat) || !page.isEncodable then .error .unencodable
  else if page.bytes?.isNone then .error .badContent
  else if !r.isAbsolute then .error .relativeUrl
  else .ok page

def readUrl (url : String) : Except WebFault Request :=
  (Request.parse url).mapError .ofRequest

def hostName (r : Request) : Except WebFault (List Char) :=
  r.hostName.mapError .badName

/-- A target with the host of the request, if it has a scheme without a host. -/
def withHostOf (r target : Request) : Except WebFault Request := do
  if target.scheme.isEmpty then .ok target
  else if (← hostName target).isEmpty then
    (target.withHost (← hostName r)).mapError .ofRequest
  else .ok target

def seenFrom (r target : Request) : Except WebFault Request :=
  if target.isAbsolute then .ok target
  else
    match Uri.resolve? (String.ofList r.toText) (String.ofList target.toText) with
    | some url => readUrl url
    | none => .error .relativeUrl

/-- A target with the fragment of the request, if it has none of its own. -/
def withFragmentOf (r target : Request) : Except WebFault Request :=
  if r.fragmentText.isEmpty || !target.fragmentText.isEmpty then .ok target
  else (target.withFragment r.fragmentText).mapError .ofRequest

def checkHosts (r target : Request) : Except WebFault Unit := do
  if r.scheme = target.scheme then
    let _ ← hostName target
    let _ ← hostName r
  else
    let _ ← hostName r
    let _ ← hostName target

def redirected (r : Request) (location : String) : Except WebFault Request := do
  match Request.parse location with
  | .error .malformed => .error .badTarget
  | .error .unencodable => .error .unencodable
  | .ok target =>
    let target ← withHostOf r target
    let target ← seenFrom r target
    let target ← withFragmentOf r target
    checkHosts r target
    .ok target

def mostRedirects : Nat := 20

def content (p : Page) : Except WebFault String :=
  if p.isSuccess then
    match p.bytes? with
    | some bytes => (p.content bytes).mapError .undecodable
    | none => .error .badContent
  else .error .status

/-- The text of a page after at most some steps to where it is found instead. -/
def getWithin (web : Web) : Nat → Request → Except WebFault String
  | 0, _ => .error .endless
  | steps + 1, r => do
    let p ← web.page r
    match p.target? with
    | some location =>
      let next ← redirected r location
      if web.follows then getWithin web steps next else content p
    | none => content p

def get (web : Web) (url : String) : Except WebFault String := do
  let r ← readUrl url
  web.getWithin (mostRedirects + 1) (if r.isAbsolute then r else r.fromRoot)

end Web

end RamlBridge

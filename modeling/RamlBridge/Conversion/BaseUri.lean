import RamlBridge.Uri.Basic
import RamlBridge.Conversion.Report

/-!
The base URI of an API. The segments of its path that hold a template are hoisted out of the base
path and put in front of every path of the API instead.
-/
namespace RamlBridge.Conversion

structure BaseUri where
  host : String
  scheme : String
  basePath : String
  hoistedPrefix : String
deriving DecidableEq, Repr, Inhabited

/-- The names in braces, from left to right. The characters since the last opening brace are kept
in reverse. -/
def templateVariablesFrom : Option (List Char) → List Char → List String
  | _, [] => []
  | opened, c :: rest =>
    if c = '\x7b' then templateVariablesFrom (some []) rest
    else
      match opened with
      | none => templateVariablesFrom none rest
      | some name =>
        if c = '\x7d' then
          if name = [] then templateVariablesFrom none rest
          else String.ofList name.reverse :: templateVariablesFrom none rest
        else templateVariablesFrom (some (c :: name)) rest

def templateVariables (text : String) : List String :=
  templateVariablesFrom none text.toList

def BaseUri.hoistedParameters (uri : BaseUri) : List String :=
  templateVariables uri.hoistedPrefix

/-- The segments of a path that are not empty. -/
def segments (path : String) : List (List Char) :=
  (Text.split '/' path.toList).filter (!·.isEmpty)

def isTemplated (segment : List Char) : Bool :=
  segment.contains '\x7b'

def splitBasePath (path : String) : String × String :=
  let parts := segments path
  (String.ofList ('/' :: Text.join '/' (parts.filter (!isTemplated ·))),
    String.ofList ((parts.filter isTemplated).flatMap ('/' :: ·)))

/-- The parts of a base URI; none, with a warning, if it is no absolute URL or its port is no
port. -/
def parseBaseUri (text : Option String) : Report (Option BaseUri) :=
  match text with
  | none => .ok none
  | some text =>
    if text = "" then .ok none
    else
      match if Uri.isUrl text then Uri.parse text else none with
      | none => .warned (.relativeBaseUri text) none
      | some uri =>
        if uri.hasValidPort then
          let (basePath, hoistedPrefix) := splitBasePath uri.path
          .ok (some ⟨uri.hostPort, uri.scheme, basePath, hoistedPrefix⟩)
        else .warned (.invalidPort text) none

end RamlBridge.Conversion

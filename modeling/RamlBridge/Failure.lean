import RamlBridge.Datum.Display
import RamlBridge.Json.Reader
import RamlBridge.Validation.Basic
import RamlBridge.Text.Utf8
import RamlBridge.Workspace.SystemFault

/-!
Failures, the causes behind them, and the messages that tell them.
-/
namespace RamlBridge

inductive Cause where
  | remark (text : String)
  | jsonSyntax (text : String) (fault : Json.ReadFault)
  | notObject
  | notText
  | reported (text : String)
  | faults (faults : List Fault)
  | yamlSyntax
  | httpStatus
  | redirects
  | badRedirect
  | badContent
  | undecodable (fault : Text.Utf8Fault)
  | unencodable
  | system (fault : SystemFault)
deriving Repr, Inhabited

def Cause.text : Cause → String
  | .remark text => text
  | .jsonSyntax text fault => fault.message text
  | .notObject => "not a JSON object"
  | .notText => "not a text"
  | .reported text => text
  | .faults fs => "; ".intercalate (fs.map Fault.message)
  | .yamlSyntax => "not a YAML document"
  | .httpStatus => "no document at this URL"
  | .redirects => "no end of redirects from this URL"
  | .badRedirect => "a redirect from this URL to none"
  | .badContent => "no text in the form that it is said to be in"
  | .undecodable fault => fault.message
  | .unencodable => "a text without bytes"
  | .system fault => fault.message

inductive Failure where
  | general (message : String) (details : List Datum)
  | conversion (message : String) (subject : Option String) (cause : Option Cause)
  | malformedSchema (text : String) (cause : Option Cause)
  | malformedConstraint (parameter field shown : String)
  | securityScheme (scheme reason : String)
  | load (source : String) (cause : Option Cause)
  | description (source : String) (errors : List String)
  | configuration (message : String) (path field : Option String) (cause : Option Cause)
  | output (path : String) (cause : Option Cause)
deriving Inhabited

namespace Failure

/-- At most forty characters of a text; of a longer one the first thirty-seven and three dots. -/
def preview (text : String) : String :=
  let cs := text.toList
  if cs.length ≤ 40 then text else String.ofList (cs.take 37) ++ "..."

/-- A text behind a mark, or nothing for none; an empty text counts as none. -/
def marked (before : String) (text : Option String) (after : String) : String :=
  match text with
  | none | some "" => ""
  | some text => before ++ text ++ after

/-- A cause behind a colon; an empty remark counts as none. -/
def caused (describe : Cause → String) : Option Cause → String
  | none | some (.remark "") => ""
  | some cause => ": " ++ describe cause

/-- The message of a failure, with the causes told as given. -/
def messageWith (describe : Cause → String) : Failure → String
  | .general message _ => message
  | .conversion message subject cause =>
    message ++ marked " (while converting " subject ")" ++ caused describe cause
  | .malformedSchema text cause =>
    "Schema is neither a declared schema name nor valid JSON: '" ++ preview text ++ "'" ++
      caused describe cause
  | .malformedConstraint parameter field shown =>
    "Invalid value " ++ shown ++ " for '" ++ field ++ "' (while converting parameter '" ++
      parameter ++ "')"
  | .securityScheme scheme reason =>
    reason ++ " (while converting security scheme '" ++ scheme ++ "')"
  | .load source cause => "Failed to load RAML from '" ++ source ++ "'" ++ caused describe cause
  | .description source errors =>
    "RAML validation failed for '" ++ source ++ "'" ++
      (if errors = [] then "" else ": " ++ "; ".intercalate errors)
  | .configuration message path field cause =>
    message ++ caused describe cause ++ marked " in '" path "'" ++ marked " (field: " field ")"
  | .output path cause => "Failed to write output to '" ++ path ++ "'" ++ caused describe cause

def message : Failure → String := messageWith Cause.text

/-- The text of a failure: its message, together with the details if there are any. It has none if
a detail cannot be shown. -/
def text : Failure → Option String
  | .general message [] => some message
  | .general message details =>
    (details.mapM Datum.shown).map fun shown =>
      "(" ++ ", ".intercalate (Text.quoted message :: shown) ++ ")"
  | f => some f.message

def cause? : Failure → Option Cause
  | .conversion _ _ cause | .malformedSchema _ cause | .load _ cause | .configuration _ _ _ cause
  | .output _ cause => cause
  | _ => none

end Failure

end RamlBridge

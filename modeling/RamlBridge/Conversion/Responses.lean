import RamlBridge.Conversion.Registry
import RamlBridge.Swagger.Basic
import RamlBridge.Decimal.Numeral

/-!
The responses of a method. One without a description is described by the phrase of its status
code.
-/
namespace RamlBridge.Conversion

def reasonPhrases : List (Int × String) :=
  [
    (100, "Continue"),
    (101, "Switching Protocols"),
    (103, "Checkpoint"),
    (200, "OK"),
    (201, "Created"),
    (202, "Accepted"),
    (203, "Non-Authoritative Information"),
    (204, "No Content"),
    (205, "Reset Content"),
    (206, "Partial Content"),
    (300, "Multiple Choices"),
    (301, "Moved Permanently"),
    (302, "Found"),
    (303, "See Other"),
    (304, "Not Modified"),
    (306, "Switch Proxy"),
    (307, "Temporary Redirect"),
    (308, "Resume Incomplete"),
    (400, "Bad Request"),
    (401, "Unauthorized"),
    (402, "Payment Required"),
    (403, "Forbidden"),
    (404, "Not Found"),
    (405, "Method Not Allowed"),
    (406, "Not Acceptable"),
    (407, "Proxy Authentication Required"),
    (408, "Request Timeout"),
    (409, "Conflict"),
    (410, "Gone"),
    (411, "Length Required"),
    (412, "Precondition Failed"),
    (413, "Request Entity Too Large"),
    (414, "Request-URI Too Long"),
    (415, "Unsupported Media Type"),
    (416, "Requested Range Not Satisfiable"),
    (417, "Expectation Failed"),
    (500, "Internal Server Error"),
    (501, "Not Implemented"),
    (502, "Bad Gateway"),
    (503, "Service Unavailable"),
    (504, "Gateway Timeout"),
    (505, "HTTP Version Not Supported"),
    (511, "Network Authentication Required")
  ]

def reasonPhrase (code : String) : Option String :=
  (Decimal.integerOfScripts? code).bind fun n => (reasonPhrases.find? (·.1 == n)).map Prod.snd

/-- The description of a response, or the phrase of its status code. -/
def describe (code : String) (description : Option String) : Option String :=
  description.orElse fun _ => reasonPhrase code

def mapResponse (registry : Registry) (code : String) (r : Raml.Response) :
    Except Stop Swagger.Response :=
  (registry.resolveFirst r.bodies).map fun schema => ⟨describe code r.description, schema⟩

def mapEachResponse (registry : Registry) :
    List (String × Raml.Response) → Except Stop (Entries Swagger.Response)
  | [] => .ok []
  | (code, r) :: rest => do
    let response ← mapResponse registry code r
    let responses ← mapEachResponse registry rest
    .ok ((code, response) :: responses)

/-- What a method answers that declares no response. -/
def defaultResponses : Entries Swagger.Response :=
  [("200", ⟨some "OK", none⟩)]

def mapResponses (registry : Registry) (responses : Entries Raml.Response) :
    Except Stop (Entries Swagger.Response) :=
  if responses.isEmpty then .ok defaultResponses else mapEachResponse registry responses

end RamlBridge.Conversion

import RamlBridge.Uri.Basic

/-!
Relative references resolved against a base, and the text of a URI.
-/
namespace RamlBridge.Uri

def schemesWithReferences : List String :=
  ["", "ftp", "http", "gopher", "nntp", "imap", "wais", "file", "https", "shttp", "mms", "prospero",
    "rtsp", "rtspu", "sftp", "svn", "svn+ssh", "ws", "wss"]

def schemesWithAuthority : List String :=
  ["", "ftp", "http", "gopher", "nntp", "telnet", "imap", "wais", "file", "mms", "https", "shttp",
    "snews", "prospero", "rtsp", "rtspu", "rsync", "svn", "svn+ssh", "sftp", "nfs", "git",
    "git+ssh", "ws", "wss"]

def toText (uri : Uri) : String :=
  let path := if uri.parameters = "" then uri.path else uri.path ++ ";" ++ uri.parameters
  let doubleSlash := path.toList.take 2 == ['/', '/']
  let hierarchy :=
    if uri.authority ≠ "" ∨
        (uri.scheme ≠ "" ∧ uri.scheme ∈ schemesWithAuthority ∧ ¬ doubleSlash) then
      "//" ++ uri.authority ++
        (if path ≠ "" ∧ path.toList.head? ≠ some '/' then "/" ++ path else path)
    else path
  (if uri.scheme = "" then "" else uri.scheme ++ ":") ++ hierarchy ++
    (if uri.query = "" then "" else "?" ++ uri.query) ++
    (if uri.fragment = "" then "" else "#" ++ uri.fragment)

/-- Segments with the dots resolved: one dot stays, two go back. What was passed so far comes in
reverse. -/
def resolveDots : List (List Char) → List (List Char) → List (List Char)
  | passed, [] => passed.reverse
  | passed, segment :: rest =>
    if segment = ['.', '.'] then resolveDots passed.tail rest
    else if segment = ['.'] then resolveDots passed rest
    else resolveDots (segment :: passed) rest

def withoutEmptyInside : List (List Char) → List (List Char)
  | [] => []
  | first :: rest =>
    first :: (rest.dropLast.filter (!·.isEmpty) ++ rest.drop (rest.length - 1))

def mergePath (base reference : List Char) : List Char :=
  let baseParts := Text.split '/' base
  let directory := if baseParts.getLastD [] = [] then baseParts else baseParts.dropLast
  let segments :=
    if reference.head? = some '/' then Text.split '/' reference
    else withoutEmptyInside (directory ++ Text.split '/' reference)
  let last := segments.getLastD []
  let resolved := resolveDots [] segments ++ (if last = ['.'] ∨ last = ['.', '.'] then [[]] else [])
  match Text.join '/' resolved with
  | [] => ['/']
  | path => path

/-- A reference resolved against a base; none if one of them is no URI. -/
def resolve? (base reference : String) : Option String :=
  if base = "" then some reference
  else if reference = "" then some base
  else
    match parse base with
    | none => none
    | some b =>
      match parseWith b.scheme reference with
      | none => none
      | some r =>
        if r.scheme ≠ b.scheme ∨ r.scheme ∉ schemesWithReferences then some reference
        else if r.scheme ∈ schemesWithAuthority ∧ r.authority ≠ "" then some r.toText
        else
          let authority := if r.scheme ∈ schemesWithAuthority then b.authority else r.authority
          if r.path = "" ∧ r.parameters = "" then
            some (toText ⟨r.scheme, authority, b.path, b.parameters,
              if r.query = "" then b.query else r.query, r.fragment⟩)
          else
            some (toText { r with
              authority := authority
              path := String.ofList (mergePath b.path.toList r.path.toList) })

end RamlBridge.Uri

import RamlBridge.Uri.Relative
import RamlBridge.Workspace.TextFile
import RamlBridge.Workspace.Web
import RamlBridge.Yaml.Value

/-!
Sources of documents, which are files or pages, and their texts.
-/
namespace RamlBridge.Loading

structure Sources where
  tree : FileTree
  web : Web
deriving Inhabited

/-- Why a document could not be loaded: a failure that is told, or something in a text, in a
reference or in a name that nobody tells. Documents that hold themselves are set aside: a value
inside itself, and a part that includes the document that it is included by. -/
inductive Stop where
  | failure (f : Failure)
  | unprintable
  | badEscape (tooLarge : Bool)
  | unreadable (fault : Yaml.ScalarFault)
  | badReference
  | page (fault : WebFault)
  | unusableName (fault : SystemFault)
  | obstacle (o : Obstacle)
  | integerTooLong
  | recursive
  | endless
deriving Inhabited

def Stop.load (source : String) (cause : Option Cause) : Stop :=
  .failure (.load source cause)

def pageCause? : WebFault → Option Cause
  | .status => some .httpStatus
  | .endless => some .redirects
  | .badTarget => some .badRedirect
  | .badContent => some .badContent
  | _ => none

def Sources.readPage (s : Sources) (url : String) : Except Stop String :=
  match s.web.get url with
  | .ok text => .ok text
  | .error f =>
    match pageCause? f with
    | some cause => .error (.load url (some cause))
    | none => .error (.page f)

def Sources.readFile (s : Sources) (source : String) : Except Stop String :=
  let path := FilePath.ofText source
  match s.tree.contains path with
  | .error f => .error (.unusableName f)
  | .ok false => .error (.load source (some (.remark "file not found")))
  | .ok true =>
    match s.tree.readText path with
    | .ok text => .ok text
    | .error f => .error (.load source (some f.cause))

def Sources.read (s : Sources) (source : String) : Except Stop String :=
  if Uri.isUrl source then s.readPage source else s.readFile source

/-- The source that a document at a location names as its part. -/
def resolve (location target : String) : Except Stop String :=
  if Uri.isUrl target then .ok target
  else if Uri.isUrl location then
    match Uri.resolve? location target with
    | some source => .ok source
    | none => .error .badReference
  else .ok ((FilePath.ofText location).parent.append (FilePath.ofText target)).toText

/-- Whether a source is a document by its name, and not a text to be taken as it is. -/
def isDocument (source : String) : Bool :=
  let name := String.ofList (Text.cut '?' source.toList).1
  [".raml", ".yaml", ".yml"].contains (Text.lower (FilePath.ofText name).suffix)

end RamlBridge.Loading

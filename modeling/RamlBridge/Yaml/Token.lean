import RamlBridge.Yaml.Cursor

/-!
The tokens of a YAML text.
-/
namespace RamlBridge.Yaml

/-- Why a text is no document. One with a value inside itself is a document, but has no value that
is a tree. -/
inductive SyntaxFault where
  | malformed
  | noCharacter
  | codeTooLarge
  | integerTooLong
  | recursive
deriving DecidableEq, Repr, Inhabited

inductive Directive where
  | version (major : Nat)
  | handle (name tagPrefix : String)
  | other
deriving DecidableEq, Repr, Inhabited

/-- A token. The end of a text that could not be read is a token as well. -/
inductive Token where
  | directive (d : Directive)
  | documentStart
  | documentEnd
  | sequenceStart
  | mappingStart
  | blockEnd
  | bracketOpen
  | bracketClose
  | braceOpen
  | braceClose
  | comma
  | dash
  | key
  | value
  | reference (name : String)
  | anchor (name : String)
  | tag (handle : Option String) (suffix : String)
  | scalar (text : String) (plain : Bool)
  | broken (fault : SyntaxFault)
deriving DecidableEq, Repr, Inhabited

end RamlBridge.Yaml

import RamlBridge.Datum.Json
import RamlBridge.Failure

/-!
The outcome of a conversion together with the warnings that were given on the way to it.
-/
namespace RamlBridge.Conversion

inductive Warning where
  | relativeBaseUri (uri : String)
  | invalidPort (uri : String)
  | repeatedPath (path : String)
  | repeatedSchema (name : String)
  | repeatedGrant (grant scheme : String)
  | unknownGrant (grant scheme : String)
deriving DecidableEq, Repr, Inhabited

def Warning.message : Warning → String
  | .relativeBaseUri uri => "Base URI '" ++ uri ++ "' is not an absolute URL, omitting host"
  | .invalidPort uri => "Base URI '" ++ uri ++ "' has an invalid port, omitting host"
  | .repeatedPath path => "Path '" ++ path ++ "' is declared more than once, keeping the last"
  | .repeatedSchema name =>
    "Schema '" ++ name ++ "' is declared more than once with different content, " ++
      "keeping the last declaration"
  | .repeatedGrant grant scheme =>
    "Ignoring repeated authorization grant '" ++ grant ++ "' of security scheme '" ++ scheme ++ "'"
  | .unknownGrant grant scheme =>
    "Skipping unknown authorization grant '" ++ grant ++ "' of security scheme '" ++ scheme ++ "'"

/-- Why no document comes out: a failure that is told, an integer of too many digits, a value that
cannot be listed, faults in a part of the document, or a value that the conversion cannot work
with. -/
inductive Stop where
  | failure (f : Failure)
  | integerTooLong
  | unlisted (fault : ListingFault)
  | faults (fs : List Fault)
  | wrongKind
  | wrongShape
  | missingPart
deriving Inhabited

/-- Faults in a part of the document told as a failure. -/
def Stop.told : Stop → Stop
  | .faults fs =>
    .failure (.conversion "Failed to assemble the Swagger document" none (some (.faults fs)))
  | s => s

/-- An outcome and the warnings before it, which stand beside a failure as well. -/
structure Report (α : Type) where
  outcome : Except Stop α
  warnings : List Warning

namespace Report

variable {α β : Type}

instance [Inhabited α] : Inhabited (Report α) := ⟨⟨.ok default, []⟩⟩

def ok (a : α) : Report α := ⟨.ok a, []⟩

def stop (s : Stop) : Report α := ⟨.error s, []⟩

def fail (f : Failure) : Report α := stop (.failure f)

def warned (w : Warning) (a : α) : Report α := ⟨.ok a, [w]⟩

def ofExcept (outcome : Except Stop α) : Report α := ⟨outcome, []⟩

/-- A report whose faults are told as a failure. -/
def told (r : Report α) : Report α :=
  ⟨r.outcome.mapError Stop.told, r.warnings⟩

def warnIf (condition : Bool) (w : Warning) : Report Unit :=
  ⟨.ok (), if condition then [w] else []⟩

/-- The next report after a first one; its warnings follow. After a failure nothing follows. -/
def bind (r : Report α) (next : α → Report β) : Report β :=
  match r.outcome with
  | .error s => ⟨.error s, r.warnings⟩
  | .ok a => ⟨(next a).outcome, r.warnings ++ (next a).warnings⟩

instance : Monad Report where
  pure := ok
  bind := bind

end Report

end RamlBridge.Conversion

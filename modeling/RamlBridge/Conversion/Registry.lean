import RamlBridge.Conversion.Schema
import RamlBridge.Raml.Basic

/-!
The schemas that a description declares under names. A body that names one of them refers to it,
and any other schema stands where it is used.
-/
namespace RamlBridge.Conversion

structure Registry where
  definitions : Entries (Entries Json)
deriving Inhabited

namespace Registry

def empty : Registry := ⟨[]⟩

def contains (registry : Registry) (name : String) : Bool :=
  registry.definitions.contains name

/-- Whether a definition says something else than the one before it under its name. -/
def conflicts (registry : Registry) (name : String) (definition : Entries Json) : Bool :=
  match registry.definitions.find? name with
  | some previous => !(Json.object previous).same (.object definition)
  | none => false

/-- Declares a schema. A later declaration takes the place of an earlier one, with a warning if
the two differ. -/
def register (registry : Registry) (name text : String) : Report Registry :=
  match parseSchema text with
  | .error s => .stop s
  | .ok members =>
    let definition := definitionOf members
    ⟨.ok ⟨registry.definitions.put name definition⟩,
      if registry.conflicts name definition then [.repeatedSchema name] else []⟩

def registerEach (registry : Registry) : List (String × String) → Report Registry
  | [] => .ok registry
  | (name, text) :: rest => do
    let registry ← registry.register name text
    registry.registerEach rest

def registerAll (registry : Registry) (schemas : List (Entries String)) : Report Registry :=
  registry.registerEach schemas.flatten

def reference (name : String) : Entries Json :=
  [("$ref", .text ("#/definitions/" ++ name))]

/-- The schema of a body: a reference if its text is a declared name, and otherwise the object
that the text denotes. -/
def resolve (registry : Registry) (text : String) : Except Stop (Entries Json) :=
  if registry.contains text then .ok (reference text)
  else (parseSchema text).map withoutTopKeys

def firstSchema (bodies : Entries Raml.Body) : Option String :=
  bodies.findSome? fun p => p.2.schema.filter (· ≠ "")

/-- The schema of the first body that declares one. -/
def resolveFirst (registry : Registry) (bodies : Entries Raml.Body) :
    Except Stop (Option (Entries Json)) :=
  match firstSchema bodies with
  | some text => (registry.resolve text).map some
  | none => .ok none

end Registry

end RamlBridge.Conversion

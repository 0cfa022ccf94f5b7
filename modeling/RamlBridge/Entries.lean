/-!
Named entries in the order in which their names first came. A name stands once: a later value
takes the place of the earlier one and keeps its position.
-/
namespace RamlBridge

/-- Values under names, in order. -/
abbrev Entries (α : Type) := List (String × α)

namespace Entries

variable {α β : Type}

/-- The value that stands first under a name. -/
def find? : Entries α → String → Option α
  | [], _ => none
  | (n, v) :: rest, name => if n = name then some v else find? rest name

/-- Sets a value in place, or at the end if the name is new. -/
def put : Entries α → String → α → Entries α
  | [], name, value => [(name, value)]
  | (n, v) :: rest, name, value =>
    if n = name then (n, value) :: rest else (n, v) :: put rest name value

/-- Sets each of the second entries in turn. -/
def putAll (entries overrides : Entries α) : Entries α :=
  overrides.foldl (fun es p => put es p.1 p.2) entries

/-- The entries that a list of pairs denotes: each name once, with its last value. -/
def ofList (pairs : List (String × α)) : Entries α :=
  putAll [] pairs

def names (entries : Entries α) : List String :=
  entries.map Prod.fst

def contains (entries : Entries α) (name : String) : Bool :=
  (find? entries name).isSome

/-- Drops every entry under a name. -/
def erase (entries : Entries α) (name : String) : Entries α :=
  entries.filter fun p => p.1 ≠ name

def mapValues (f : α → β) (entries : Entries α) : Entries β :=
  entries.map fun p => (p.1, f p.2)

end Entries

/-- The distinct members of a list, each where it first stands. -/
def firstOccurrences {α : Type} [DecidableEq α] (xs : List α) : List α :=
  xs.foldl (fun seen x => if x ∈ seen then seen else seen ++ [x]) []

end RamlBridge

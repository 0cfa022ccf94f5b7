import RamlBridge.Datum.Basic

/-!
The tables of a TOML document while it is read. A table remembers how it came about, because a
header may not open a table that was already written out.
-/
namespace RamlBridge.Toml

/-- How a table came about: on the way to another one, under a header of its own, or through
the dotted keys of a section, which are counted. -/
inductive Origin where
  | implied
  | headed
  | dotted (section_ : Nat)
deriving DecidableEq, Repr

/-- A value, a table, or a list of tables, the last of which is being written. -/
inductive Item where
  | value (d : Datum)
  | table (origin : Origin) (entries : List (String × Item))
  | tables (earlier : List (List (String × Item))) (last : List (String × Item))
deriving Inhabited

abbrev Table := List (String × Item)

namespace Table

/-- A table with another item under a key, if there can be one. -/
def update (key : String) (change : Option Item → Option Item) : Table → Option Table
  | [] => (change none).map fun i => [(key, i)]
  | (k, i) :: rest =>
    if k = key then (change (some i)).map fun i => (k, i) :: rest
    else (update key change rest).map ((k, i) :: ·)

/-- A table with a change in the table at a path, which is added if it is not there. -/
def within (change : Table → Option Table) : List String → Table → Option Table
  | [], t => change t
  | key :: path, t => update key (fun i => match i with
    | none => (within change path []).map (.table .implied)
    | some (.table origin t) => (within change path t).map (.table origin)
    | some (.tables earlier last) => (within change path last).map (.tables earlier)
    | some (.value _) => none) t

/-- Opens the table at a path under a header. -/
def open? (path : List String) (t : Table) : Option Table :=
  within (update (path.getLastD "") fun i => match i with
    | none => some (.table .headed [])
    | some (.table .implied t) => some (.table .headed t)
    | _ => none) path.dropLast t

/-- Begins another table in the list of tables at a path. -/
def append? (path : List String) (t : Table) : Option Table :=
  within (update (path.getLastD "") fun i => match i with
    | none => some (.tables [] [])
    | some (.tables earlier last) => some (.tables (earlier ++ [last]) [])
    | _ => none) path.dropLast t

/-- Puts a value under a dotted key. Its tables may have been begun in the same section. -/
def putDotted (number : Nat) (d : Datum) : List String → Table → Option Table
  | [], _ => none
  | [key], t => update key (fun i => if i.isSome then none else some (.value d)) t
  | key :: path, t => update key (fun i => match i with
    | none => (putDotted number d path []).map (.table (.dotted number))
    | some (.table .implied t) => (putDotted number d path t).map (.table (.dotted number))
    | some (.table (.dotted n) t) =>
      if n = number then (putDotted number d path t).map (.table (.dotted number)) else none
    | _ => none) t

mutual

def itemDatum : Item → Datum
  | .value d => d
  | .table _ t => .map (datumEntries t)
  | .tables earlier last => .list (earlierData earlier ++ [.map (datumEntries last)])

def datumEntries : List (String × Item) → List (Scalar × Datum)
  | [] => []
  | (key, i) :: rest => (.text key, itemDatum i) :: datumEntries rest

def earlierData : List (List (String × Item)) → List Datum
  | [] => []
  | t :: ts => .map (datumEntries t) :: earlierData ts

end

end Table

end RamlBridge.Toml

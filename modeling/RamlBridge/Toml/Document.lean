import RamlBridge.Toml.Item
import RamlBridge.Toml.Scalar

/-!
TOML documents and their values.
-/
namespace RamlBridge.Toml

def isBareKeyChar (c : Char) : Bool := c.isAlphanum || c == '-' || c == '_'

/-- The rest of the line after the place where a comment may begin. -/
def skipComment : List Char → Except Fault (List Char)
  | '#' :: rest =>
    if (rest.takeWhile (· != '\n')).any (isIllegal false) then malformed
    else .ok (rest.dropWhile (· != '\n'))
  | cs => .ok cs

def keyPart (cs : List Char) : Except Fault (String × List Char) :=
  match cs with
  | [] => malformed
  | c :: rest =>
    if isBareKeyChar c then
      .ok (String.ofList (cs.takeWhile isBareKeyChar), cs.dropWhile isBareKeyChar)
    else
      let body : Except Fault (List Char × List Char) :=
        if c = '"' then basic false rest
        else if c = '\'' then literalBody false [] rest
        else malformed
      body.map fun p => (String.ofList p.1, p.2)

/-- The parts of a key with points between them, and what follows them and the blanks after
them. -/
def key : Nat → List Char → Except Fault (List String × List Char)
  | 0, _ => malformed
  | fuel + 1, cs => do
    let (part, rest) ← keyPart cs
    match skipBlanks rest with
    | '.' :: rest => (key fuel (skipBlanks rest)).map fun p => (part :: p.1, p.2)
    | rest => .ok ([part], rest)

/-- What follows blanks, line ends and comments in a list. -/
def skipInList : Nat → List Char → Except Fault (List Char)
  | 0, cs => .ok cs
  | fuel + 1, cs =>
    match cs.dropWhile fun c => isBlank c || c == '\n' with
    | '#' :: rest => do skipInList fuel (← skipComment ('#' :: rest))
    | rest => .ok rest

mutual

def value : Nat → List Char → Except Fault (Datum × List Char)
  | 0, _ => malformed
  | fuel + 1, cs =>
    match cs with
    | [] => malformed
    | c :: rest =>
      if c = '"' ∨ c = '\'' then (text cs).map fun p => (.text p.1, p.2)
      else if c = '[' then do
        let rest ← skipInList rest.length rest
        (items fuel rest).map fun p => (.list p.1, p.2)
      else if c = '\x7b' then inlineTable fuel (skipBlanks rest)
      else
        match after? "true" cs, after? "false" cs with
        | some rest, _ => .ok (.scalar (.bool true), rest)
        | _, some rest => .ok (.scalar (.bool false), rest)
        | none, none => (number cs).map fun p => (.scalar p.1, p.2)

/-- Reads the items of a list up to its end. A comma may stand behind the last one. -/
def items : Nat → List Char → Except Fault (List Datum × List Char)
  | 0, _ => malformed
  | _ + 1, ']' :: rest => .ok ([], rest)
  | fuel + 1, cs => do
    let (d, rest) ← value fuel cs
    match ← skipInList rest.length rest with
    | ']' :: rest => .ok ([d], rest)
    | ',' :: rest => do
      let rest ← skipInList rest.length rest
      (items fuel rest).map fun p => (d :: p.1, p.2)
    | _ => malformed

def inlineTable : Nat → List Char → Except Fault (Datum × List Char)
  | 0, _ => malformed
  | _ + 1, '\x7d' :: rest => .ok (.map [], rest)
  | fuel + 1, cs =>
    (inlineEntries fuel [] cs).map fun p => (.map (Table.datumEntries p.1), p.2)

def inlineEntries : Nat → Table → List Char → Except Fault (Table × List Char)
  | 0, _, _ => malformed
  | fuel + 1, t, cs => do
    let (path, d, rest) ← entry fuel cs
    match Table.putDotted 0 d path t with
    | none => malformed
    | some t =>
      match skipBlanks rest with
      | '\x7d' :: rest => .ok (t, rest)
      | ',' :: rest => inlineEntries fuel t (skipBlanks rest)
      | _ => malformed

def entry : Nat → List Char → Except Fault (List String × Datum × List Char)
  | 0, _ => malformed
  | fuel + 1, cs => do
    let (path, rest) ← key cs.length cs
    match rest with
    | '=' :: rest => (value fuel (skipBlanks rest)).map fun p => (path, p.1, p.2)
    | _ => malformed

end

/-- A document being read: its tables, the number and the path of the section. -/
structure Draft where
  table : Table
  number : Nat
  path : List String
deriving Inhabited

/-- A header that opens a table or begins another one in a list, behind its brackets. -/
def header (draft : Draft) (listed : Bool) (cs : List Char) :
    Except Fault (Draft × List Char) := do
  let (path, rest) ← key (cs.length + 1) (skipBlanks cs)
  let table := if listed then Table.append? path draft.table else Table.open? path draft.table
  match table, after? (if listed then "]]" else "]") rest with
  | some table, some rest => .ok (⟨table, draft.number + 1, path⟩, rest)
  | _, _ => malformed

/-- What a line that is not blank says. -/
def statement (draft : Draft) (cs : List Char) : Except Fault (Draft × List Char) :=
  match cs with
  | '[' :: '[' :: rest => header draft true rest
  | '[' :: rest => header draft false rest
  | '#' :: _ => .ok (draft, cs)
  | c :: _ =>
    if isBareKeyChar c || c == '"' || c == '\'' then do
      let (path, d, rest) ← entry (2 * cs.length + 2) cs
      match Table.within (Table.putDotted draft.number d path) draft.path draft.table with
      | some table => .ok ({ draft with table }, rest)
      | none => malformed
    else malformed
  | [] => .ok (draft, cs)

def lines : Nat → Draft → List Char → Except Fault Table
  | 0, _, _ => malformed
  | fuel + 1, draft, cs =>
    match skipBlanks cs with
    | [] => .ok draft.table
    | '\n' :: rest => lines fuel draft rest
    | cs => do
      let (draft, rest) ← statement draft cs
      match ← skipComment (skipBlanks rest) with
      | [] => .ok draft.table
      | '\n' :: rest => lines fuel draft rest
      | _ => malformed

def parse (text : String) : Except Fault Datum :=
  let cs := text.toList
  (lines (cs.length + 1) ⟨[], 0, []⟩ cs).map fun t => .map (Table.datumEntries t)

end RamlBridge.Toml

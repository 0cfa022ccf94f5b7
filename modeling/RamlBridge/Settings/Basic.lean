import RamlBridge.Json.Reader
import RamlBridge.Validation.Field

/-!
Settings of the program: which documents are converted, and how. They are read from the entries of
a file and from the environment.
-/
namespace RamlBridge

structure Task where
  source : String
  output : Option String
deriving DecidableEq, Repr, Inhabited

open Checked in
def Task.read (d : Datum) : Checked Task :=
  (fields "DocumentConfig" d).andThen fun es =>
    Task.mk
      <$> mandatory es "source" "source" text
      <*> field es "output" "output" none (nullable text)

structure Settings where
  documents : List Task
  indent : Int
  outputSuffix : String
  logLevel : String
deriving DecidableEq, Repr, Inhabited

namespace Settings

open Checked

abbrev Environment := List (String × String)

def names : List String := ["documents", "indent", "output_suffix", "log_level"]

/-- The value of the variable for a field. The case of its name does not matter, and the last
variable of that name counts. -/
def variableValue? (env : Environment) (name : String) : Option String :=
  (env.reverse.find? fun v => Text.lower v.1 == "raml2swagger_" ++ name).map Prod.snd

/-- The entry of a file for a field: under its name, or under its name in another case. -/
def given? (es : List (Scalar × Datum)) (name : String) : Option (Scalar × Datum) :=
  let under (matches_ : String → Bool) : Option (Scalar × Datum) := es.find? fun p =>
    match p.1 with
    | .text k => matches_ k
    | _ => false
  (under (· == name)).orElse fun _ => under (Text.lower · == name)

/-- The value of a field in the environment. The list of documents is written in JSON, and null
says nothing. -/
def environmentValue? (env : Environment) (name : String) :
    Except Json.ReadFault (Option Datum) :=
  match variableValue? env name with
  | none => .ok none
  | some value =>
    if name = "documents" then do
      let j ← Json.parse value
      .ok (if j matches .null then none else some (.ofJson j))
    else .ok (some (.text value))

/-- The entries of the fields that are given, each under its own name; those of a file outweigh
the environment. -/
def givenEntries (env : Environment) (es : List (Scalar × Datum)) :
    Except Json.ReadFault (List (Scalar × Datum)) := do
  let given ← names.mapM fun name => do
    let value ← environmentValue? env name
    match given? es name with
    | some p => .ok [(Scalar.text name, p.2)]
    | none => .ok (value.toList.map fun d => (.text name, d))
  .ok given.flatten

def unknownEntries (es : List (Scalar × Datum)) : List Fault :=
  let used := names.filterMap fun name => (given? es name).map Prod.fst
  (es.filter fun p => !used.contains p.1).map fun p => ⟨[.key (keyName p.1)], .unknownKey⟩

/-- Settings from the entries of the fields, with a value for each that is not given. -/
def ofEntries (es : List (Scalar × Datum)) : Checked Settings :=
  Settings.mk
    <$> field es "documents" "documents" [] (list Task.read)
    <*> field es "indent" "indent" 2 (fun d => map Int.ofNat (count d))
    <*> field es "output_suffix" "output_suffix" ".json" text
    <*> field es "log_level" "log_level" "INFO" text

def read (env : Environment) (es : List (Scalar × Datum)) :
    Except Json.ReadFault (Checked Settings) :=
  (givenEntries env es).map fun given => withUnknown es (unknownEntries es) (ofEntries given)

end Settings

end RamlBridge

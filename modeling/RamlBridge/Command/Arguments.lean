import RamlBridge.Decimal.Numeral
import RamlBridge.Text.Pieces

/-!
The arguments of the command line and the commands that they ask for.
-/
namespace RamlBridge

inductive Command where
  | convert (source : String) (output settings : Option String) (indent : Option Int)
      (verbose : Bool)
  | batch (settings : Option String) (verbose : Bool)
  | version
  | help
deriving DecidableEq, Repr, Inhabited

namespace Command

/-- An option: its long name, its letter, and whether a value follows it. -/
structure Flag where
  name : String
  letter : Option Char
  valued : Bool
deriving DecidableEq, Repr

def settingsFlag : Flag := ⟨"config", some 'c', true⟩
def indentFlag : Flag := ⟨"indent", none, true⟩
def verboseFlag : Flag := ⟨"verbose", some 'v', false⟩
def helpFlag : Flag := ⟨"help", none, false⟩

/-- Arguments sorted out: the options by name with their values, and what is left. -/
structure Arguments where
  flags : List (String × String)
  operands : List String
deriving DecidableEq, Repr, Inhabited

namespace Arguments

def addOperand (operand : String) (a : Arguments) : Arguments :=
  { a with operands := operand :: a.operands }

def value? (a : Arguments) (f : Flag) : Option String :=
  (a.flags.reverse.find? (·.1 == f.name)).map Prod.snd

def has (a : Arguments) (f : Flag) : Bool := (a.value? f).isSome

end Arguments

/-- The options that letters behind one dash name; and the option, if there is one, whose value is
the next argument. The rest of the letters is the value of an option that has one. -/
def letterFlags (known : List Flag) : List Char → Option (List (String × String) × Option String)
  | [] => some ([], none)
  | c :: rest =>
    match known.find? (·.letter == some c) with
    | none => none
    | some f =>
      if f.valued then
        if rest.isEmpty then some ([], some f.name)
        else some ([(f.name, String.ofList rest)], none)
      else (letterFlags known rest).map fun p => ((f.name, "") :: p.1, p.2)

/-- The option behind two dashes, in the same form. -/
def longFlag (known : List Flag) (cs : List Char) :
    Option (List (String × String) × Option String) :=
  let (name, value) := Text.cut '=' cs
  match known.find? (·.name.toList == name), value with
  | some f, some value =>
    if f.valued then some ([(f.name, String.ofList value)], none) else none
  | some f, none => some (if f.valued then ([], some f.name) else ([(f.name, "")], none))
  | none, _ => none

/-- Sorts arguments out; none if one of them is no known option or lacks its value. -/
def sortOut (known : List Flag) : List String → Option Arguments
  | [] => some ⟨[], []⟩
  | argument :: rest =>
    let flags := match argument.toList with
      | '-' :: '-' :: cs => some (longFlag known cs)
      | '-' :: c :: cs => some (letterFlags known (c :: cs))
      | _ => none
    if argument = "--" then some ⟨[], rest⟩
    else
      match flags with
      | none => (sortOut known rest).map (.addOperand argument)
      | some none => none
      | some (some (given, none)) =>
        (sortOut known rest).map fun a => { a with flags := given ++ a.flags }
      | some (some (given, some name)) =>
        match rest with
        | [] => none
        | value :: rest =>
          (sortOut known rest).map fun a => { a with flags := given ++ (name, value) :: a.flags }

def ofConversion (a : Arguments) : Option Command :=
  let indent : Option (Option Int) := match a.value? indentFlag with
    | none => some none
    | some text => (Decimal.integerOfScripts? text).map some
  match a.operands, indent with
  | [source], some indent =>
    some (.convert source none (a.value? settingsFlag) indent (a.has verboseFlag))
  | [source, output], some indent =>
    some (.convert source (some output) (a.value? settingsFlag) indent (a.has verboseFlag))
  | _, _ => none

def ofBatch (a : Arguments) : Option Command :=
  if a.operands.isEmpty then some (.batch (a.value? settingsFlag) (a.has verboseFlag)) else none

def ofVersion (a : Arguments) : Option Command :=
  if a.operands.isEmpty then some .version else none

/-- A command from its arguments. Asking for help outweighs everything but a bad option. -/
def withFlags (known : List Flag) (command : Arguments → Option Command) (rest : List String) :
    Option Command :=
  match sortOut (helpFlag :: known) rest with
  | none => none
  | some a => if a.has helpFlag then some .help else command a

def ofName (name : String) (rest : List String) : Option Command :=
  match name with
  | "convert" => withFlags [settingsFlag, indentFlag, verboseFlag] ofConversion rest
  | "batch" => withFlags [settingsFlag, verboseFlag] ofBatch rest
  | "version" => withFlags [] ofVersion rest
  | _ => none

/-- The command that arguments ask for; none if they ask for none in the right way. -/
def ofArguments : List String → Option Command
  | "--help" :: _ => some .help
  | "--" :: name :: rest => ofName name rest
  | name :: rest => ofName name rest
  | [] => none

end Command

end RamlBridge

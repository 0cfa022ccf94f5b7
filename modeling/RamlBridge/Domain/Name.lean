import RamlBridge.Domain.Letters
import RamlBridge.Domain.Punycode
import RamlBridge.Domain.Script
import RamlBridge.Text.Composition
import RamlBridge.Text.Pieces

/-!
Domain names: labels with dots between them. A label of other than plain characters is written in
plain ones behind a mark.
-/
namespace RamlBridge.Domain

/-- Why a name is none: its form, a character that no label holds, a character that does not fit
the others, or characters of different directions. -/
inductive NameFault where
  | form
  | letter
  | context
  | direction
deriving DecidableEq, Repr, Inhabited

/-- Whether hyphens stand where they may: not at the ends, and not in the third and fourth place. -/
def hyphensFit (label : List Char) : Bool :=
  (label.drop 2).take 2 != ['-', '-'] && label.head? != some '-' && label.getLast? != some '-'

/-- Whether a mark that silences a vowel ends these characters, which come in reverse. -/
def endsSilent (before : List Char) : Bool :=
  before.head?.any fun c => Text.markClass c == 9

/-- Whether a non-joiner may stand between these characters, of which the first come in reverse. -/
def separates (before after : List Char) : Bool :=
  endsSilent before ||
    (((before.dropWhile isJoinedThrough).head?.any joinsForward) &&
      ((after.dropWhile isJoinedThrough).head?.any joinsBackward))

/-- What is wrong with a character between others, of which the first come in reverse. -/
def letterFault? (before : List Char) (c : Char) (after : List Char) : Option NameFault :=
  let label := before ++ after
  let fits (condition : Bool) : Option NameFault := if condition then none else some .context
  match c.toNat with
  | 0x200c => if separates before after then none else some .form
  | 0x200d => if endsSilent before then none else some .form
  | 0xb7 => fits (before.head? == some 'l' && after.head? == some 'l')
  | 0x375 => fits (after.head?.any (Text.isIn greekRanges))
  | 0x5f3 | 0x5f4 => fits (before.head?.any (Text.isIn hebrewRanges))
  | 0x30fb => fits (label.any (Text.isIn eastAsianRanges))
  | n =>
    if 0x660 ≤ n ∧ n ≤ 0x669 then fits !(label.any fun d => 0x6f0 ≤ d.toNat && d.toNat ≤ 0x6f9)
    else if 0x6f0 ≤ n ∧ n ≤ 0x6f9 then
      fits !(label.any fun d => 0x660 ≤ d.toNat && d.toNat ≤ 0x669)
    else if isLetter c then none
    else some .letter

/-- The first fault of the characters of a label; those that were passed come in reverse. -/
def firstLetterFault? (before : List Char) : List Char → Option NameFault
  | [] => none
  | c :: rest =>
    match letterFault? before c rest with
    | some f => some f
    | none => firstLetterFault? (c :: before) rest

/-- Whether the directions of a label go together: if anything in it is written from right to left,
its first character sets the direction, what may stand in it, and how it ends. -/
def directionsFit (label : List Char) : Bool :=
  let ds := label.map direction
  let last := (ds.reverse.dropWhile (· == .mark)).head?
  if !(ds.contains .rightToLeft || ds.contains .arabicNumber) then true
  else if ds.head? == some .rightToLeft then
    !ds.contains .leftToRight && !(ds.contains .europeanNumber && ds.contains .arabicNumber) &&
      last.any fun d => d == .rightToLeft || d == .europeanNumber || d == .arabicNumber
  else false

def checkLabel (label : List Char) : Except NameFault Unit :=
  if label.isEmpty || 254 < label.length || Text.composed label != label || !hyphensFit label ||
      label.head?.any isMark then .error .form
  else
    match firstLetterFault? [] label with
    | some f => .error f
    | none => if directionsFit label then .ok () else .error .direction

def isPlain (cs : List Char) : Bool := cs.all fun c => c.toNat < 0x80

/-- What stands in front of a label in plain characters. -/
def plainMark : List Char := "xn--".toList

def decodeLabel (label : List Char) : Except NameFault (List Char) := do
  let label := label.map Char.toLower
  if plainMark.isPrefixOf label then
    let written := label.drop plainMark.length
    if written.isEmpty || written.getLast? == some '-' then .error .form
    else
      match fromPunycode? written with
      | some decoded =>
        checkLabel decoded
        .ok decoded
      | none => .error .form
  else
    checkLabel label
    .ok label

def encodeLabel (label : List Char) : Except NameFault (List Char) := do
  let encoded ←
    if isPlain label then (decodeLabel label).map fun _ => label
    else (checkLabel label).map fun _ => plainMark ++ punycode label
  if encoded.length ≤ 63 then .ok encoded else .error .form

def isDot (c : Char) : Bool :=
  c == '.' || c.toNat == 0x3002 || c.toNat == 0xff0e || c.toNat == 0xff61

/-- The labels of a name, each brought into another form. A dot may stand at the end. -/
def mapLabels (change : List Char → Except NameFault (List Char)) (name : List Char) :
    Except NameFault (List Char) :=
  let labels := Text.split '.' (name.map fun c => if isDot c then '.' else c)
  let ends := labels.length > 1 && labels.getLast? == some []
  if 254 < name.length then .error .form
  else do
    let changed ← (if ends then labels.dropLast else labels).mapM change
    .ok (Text.join '.' (if ends then changed ++ [[]] else changed))

def encode (name : List Char) : Except NameFault (List Char) := do
  let encoded ← mapLabels encodeLabel name
  if encoded.length ≤ (if encoded.getLast? == some '.' then 254 else 253) then .ok encoded
  else .error .form

def decode (name : List Char) : Except NameFault (List Char) :=
  mapLabels decodeLabel name

end RamlBridge.Domain

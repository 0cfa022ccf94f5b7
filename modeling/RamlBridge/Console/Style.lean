import RamlBridge.Decimal.Numeral
import RamlBridge.Text.Case
import RamlBridge.Text.Hex
import RamlBridge.Text.Pieces

/-!
Names of styles. A style has several names: they say the same in another order, in short words or
in capitals, and each of them leads to one normal name.
-/
namespace RamlBridge.Console

/-- What a style can turn on or off, with the short words for it, in the order of normal names. -/
def features : List (String × List String) :=
  [("bold", ["b"]), ("dim", ["d"]), ("italic", ["i"]), ("underline", ["u"]), ("blink", []),
    ("blink2", []), ("reverse", ["r"]), ("conceal", ["c"]), ("strike", ["s"]),
    ("underline2", ["uu"]), ("frame", []), ("encircle", []), ("overline", ["o"])]

def colorNames : List String :=
  ["aquamarine1", "aquamarine3", "black", "blue", "blue1", "blue3", "blue_violet",
    "bright_black", "bright_blue", "bright_cyan", "bright_green", "bright_magenta", "bright_red",
    "bright_white", "bright_yellow", "cadet_blue", "chartreuse1", "chartreuse2", "chartreuse3",
    "chartreuse4", "cornflower_blue", "cornsilk1", "cyan", "cyan1", "cyan2", "cyan3", "dark_blue",
    "dark_cyan", "dark_goldenrod", "dark_green", "dark_khaki", "dark_magenta",
    "dark_olive_green1", "dark_olive_green2", "dark_olive_green3", "dark_orange", "dark_orange3",
    "dark_red", "dark_sea_green", "dark_sea_green1", "dark_sea_green2", "dark_sea_green3",
    "dark_sea_green4", "dark_slate_gray1", "dark_slate_gray2", "dark_slate_gray3",
    "dark_turquoise", "dark_violet", "deep_pink1", "deep_pink2", "deep_pink3", "deep_pink4",
    "deep_sky_blue1", "deep_sky_blue2", "deep_sky_blue3", "deep_sky_blue4", "dodger_blue1",
    "dodger_blue2", "dodger_blue3", "gold1", "gold3", "gray0", "gray100", "gray11", "gray15",
    "gray19", "gray23", "gray27", "gray3", "gray30", "gray35", "gray37", "gray39", "gray42",
    "gray46", "gray50", "gray53", "gray54", "gray58", "gray62", "gray63", "gray66", "gray69",
    "gray7", "gray70", "gray74", "gray78", "gray82", "gray84", "gray85", "gray89", "gray93",
    "green", "green1", "green3", "green4", "green_yellow", "grey0", "grey100", "grey11", "grey15",
    "grey19", "grey23", "grey27", "grey3", "grey30", "grey35", "grey37", "grey39", "grey42",
    "grey46", "grey50", "grey53", "grey54", "grey58", "grey62", "grey63", "grey66", "grey69",
    "grey7", "grey70", "grey74", "grey78", "grey82", "grey84", "grey85", "grey89", "grey93",
    "honeydew2", "hot_pink", "hot_pink2", "hot_pink3", "indian_red", "indian_red1", "khaki1",
    "khaki3", "light_coral", "light_cyan1", "light_cyan3", "light_goldenrod1", "light_goldenrod2",
    "light_goldenrod3", "light_green", "light_pink1", "light_pink3", "light_pink4",
    "light_salmon1", "light_salmon3", "light_sea_green", "light_sky_blue1", "light_sky_blue3",
    "light_slate_blue", "light_slate_gray", "light_slate_grey", "light_steel_blue",
    "light_steel_blue1", "light_steel_blue3", "light_yellow3", "magenta", "magenta1", "magenta2",
    "magenta3", "medium_orchid", "medium_orchid1", "medium_orchid3", "medium_purple",
    "medium_purple1", "medium_purple2", "medium_purple3", "medium_purple4", "medium_spring_green",
    "medium_turquoise", "medium_violet_red", "misty_rose1", "misty_rose3", "navajo_white1",
    "navajo_white3", "navy_blue", "orange1", "orange3", "orange4", "orange_red1", "orchid",
    "orchid1", "orchid2", "pale_green1", "pale_green3", "pale_turquoise1", "pale_turquoise4",
    "pale_violet_red1", "pink1", "pink3", "plum1", "plum2", "plum3", "plum4", "purple", "purple3",
    "purple4", "red", "red1", "red3", "rosy_brown", "royal_blue1", "salmon1", "sandy_brown",
    "sea_green1", "sea_green2", "sea_green3", "sky_blue1", "sky_blue2", "sky_blue3",
    "slate_blue1", "slate_blue3", "spring_green1", "spring_green2", "spring_green3",
    "spring_green4", "steel_blue", "steel_blue1", "steel_blue3", "tan", "thistle1", "thistle3",
    "turquoise2", "turquoise4", "violet", "wheat1", "wheat4", "white", "yellow", "yellow1",
    "yellow2", "yellow3", "yellow4"]

/-- A style as its name says it: what it turns on or off, colors, and where it leads. -/
structure Style where
  settings : List (String × Bool)
  color : Option String
  background : Option String
  link : Option String
deriving DecidableEq, Repr, Inhabited

/-- Why a name is not read as a style: it says something else, or the place of a number in it is
empty. -/
inductive StyleFault where
  | unknown
  | noNumber
deriving DecidableEq, Repr

def feature? (word : String) : Option String :=
  (features.find? fun f => f.1 = word || f.2.contains word).map Prod.fst

def between? (start ending : String) (cs : List Char) : Option (List Char) :=
  if start.length + ending.length ≤ cs.length ∧ start.toList.isPrefixOf cs ∧
      ending.toList.isSuffixOf cs then
    some ((cs.drop start.length).take (cs.length - start.length - ending.length))
  else none

/-- Checks that three numbers below 256 stand between commas. -/
def checkComponents (cs : List Char) : Except StyleFault Unit :=
  let components := Text.split ',' cs
  if cs.isEmpty || !cs.all (fun c => c == ',' || (Text.digitValue? c).isSome) ||
      components.length != 3 then .error .unknown
  else if components.any (·.isEmpty) then .error .noNumber
  else
    let isSmall (component : List Char) : Bool :=
      (Decimal.integerOfScripts? (String.ofList component)).any (· ≤ 255)
    if components.all isSmall then .ok () else .error .unknown

/-- Checks that a word in lower case is a color: by its name, its number, or its parts. -/
def checkColor (word : String) : Except StyleFault Unit :=
  let cs := word.toList
  if word = "default" ∨ colorNames.contains word then .ok ()
  else
    match between? "#" "" cs, between? "color(" ")" cs, between? "rgb(" ")" cs with
    | some digits, _, _ =>
      if digits.length = 6 ∧ digits.all fun c => (Text.hexValue? c).isSome then .ok ()
      else .error .unknown
    | none, some digits, _ =>
      if !digits.isEmpty && digits.length ≤ 3 && digits.all Char.isDigit &&
          Decimal.ofDigits digits ≤ 255 then .ok ()
      else .error .unknown
    | none, none, some components => checkComponents components
    | none, none, none => .error .unknown

namespace Style

def none : Style := ⟨[], .none, .none, .none⟩

def set (s : Style) (feature : String) (on : Bool) : Style :=
  { s with settings := s.settings.filter (·.1 ≠ feature) ++ [(feature, on)] }

def ofWords (s : Style) : List String → Except StyleFault Style
  | [] => .ok s
  | word :: rest =>
    match Text.lower word, rest with
    | "on", color :: rest => do
      checkColor (Text.lower color)
      ofWords { s with background := some (Text.lower color) } rest
    | "not", word :: rest =>
      match feature? word with
      | some feature => ofWords (s.set feature false) rest
      | .none => .error .unknown
    | "link", target :: rest => ofWords { s with link := some target } rest
    | lower, rest =>
      match feature? lower with
      | some feature => ofWords (s.set feature true) rest
      | .none => do
        checkColor lower
        ofWords { s with color := some lower } rest

def name (s : Style) : String :=
  let settings := features.filterMap fun f =>
    (s.settings.find? (·.1 = f.1)).map fun setting =>
      if setting.2 then f.1 else "not " ++ f.1
  let words := settings ++ s.color.toList ++ (s.background.toList.map ("on " ++ ·)) ++
    (s.link.toList.map ("link " ++ ·))
  if words.isEmpty then "none" else " ".intercalate words

end Style

def nameWords (name : String) : List String :=
  ((Text.split ' ' (name.toList.map fun c => if Text.isBlank c then ' ' else c)).filter
    (!·.isEmpty)).map String.ofList

/-- The normal form of a name: that of its style, or the name itself in lower case if it is none;
none if the place of a number in it is empty. -/
def normalName? (name : String) : Option String :=
  if Text.strip name = "none" then some "none"
  else
    match Style.none.ofWords (nameWords name) with
    | .ok style => some style.name
    | .error .unknown => some (Text.lower (Text.strip name))
    | .error .noNumber => none

end RamlBridge.Console

import RamlBridge.Yaml.Timestamp

/-!
Tags of nodes, and the tag that the text of a plain scalar implies.
-/
namespace RamlBridge.Yaml.Tag

def null : String := "tag:yaml.org,2002:null"
def bool : String := "tag:yaml.org,2002:bool"
def int : String := "tag:yaml.org,2002:int"
def float : String := "tag:yaml.org,2002:float"
def binary : String := "tag:yaml.org,2002:binary"
def timestamp : String := "tag:yaml.org,2002:timestamp"
def text : String := "tag:yaml.org,2002:str"
def sequence : String := "tag:yaml.org,2002:seq"
def mapping : String := "tag:yaml.org,2002:map"
def set : String := "tag:yaml.org,2002:set"
def orderedMap : String := "tag:yaml.org,2002:omap"
def pairs : String := "tag:yaml.org,2002:pairs"
def merge : String := "tag:yaml.org,2002:merge"
def value : String := "tag:yaml.org,2002:value"
def document : String := "tag:yaml.org,2002:yaml"
def inclusion : String := "!include"

def collections : List String := [sequence, mapping, set, orderedMap, pairs]

def booleanWords : List (String × Bool) :=
  [("yes", true), ("Yes", true), ("YES", true), ("no", false), ("No", false), ("NO", false),
    ("true", true), ("True", true), ("TRUE", true), ("false", false), ("False", false),
    ("FALSE", false), ("on", true), ("On", true), ("ON", true), ("off", false), ("Off", false),
    ("OFF", false)]

def nullWords : List String := ["", "~", "null", "Null", "NULL"]

def isDigitOrUnderscore (c : Char) : Bool := c.isDigit || c == '_'

def dropSign : List Char → List Char
  | '+' :: rest | '-' :: rest => rest
  | cs => cs

/-- Whether characters are groups of a colon and one digit, or two of which the first is below
six; at least one group. -/
def isSixties : List Char → Bool
  | [':', a] => a.isDigit
  | [':', a, b] => a.isDigit && a < '6' && b.isDigit
  | ':' :: a :: b :: rest =>
    if b == ':' then a.isDigit && isSixties (b :: rest)
    else a.isDigit && a < '6' && b.isDigit && isSixties rest
  | _ => false

def digitRun : List Char → Option (List Char)
  | c :: rest => if c.isDigit then some (rest.dropWhile isDigitOrUnderscore) else none
  | [] => none

def isExponent : List Char → Bool
  | [] => true
  | e :: sign :: ds =>
    (e == 'e' || e == 'E') && (sign == '+' || sign == '-') && !ds.isEmpty && ds.all Char.isDigit
  | _ => false

/-- Whether characters are a point with digits on either side, in one of the ways in which a
number with a fraction is written. -/
def isFraction : List Char → Bool
  | '.' :: c :: rest => c.isDigit && isExponent (rest.dropWhile isDigitOrUnderscore)
  | _ => false

def isFloat (cs : List Char) : Bool :=
  let unsigned := dropSign cs
  let whole := match digitRun unsigned with
    | some ('.' :: rest) => isExponent (rest.dropWhile isDigitOrUnderscore)
    | some rest =>
      isSixties (rest.takeWhile (· != '.')) &&
        match rest.dropWhile (· != '.') with
        | '.' :: places => places.all isDigitOrUnderscore
        | _ => false
    | none => false
  whole || isFraction cs || [".inf", ".Inf", ".INF"].contains (String.ofList unsigned) ||
    [".nan", ".NaN", ".NAN"].contains (String.ofList cs)

def isInt (cs : List Char) : Bool :=
  let nonEmpty (p : Char → Bool) (ds : List Char) : Bool := !ds.isEmpty && ds.all p
  match dropSign cs with
  | ['0'] => true
  | '0' :: 'b' :: ds => nonEmpty (fun c => c == '0' || c == '1' || c == '_') ds
  | '0' :: 'x' :: ds =>
    nonEmpty (fun c => c.isDigit || ('a' ≤ c && c ≤ 'f') || ('A' ≤ c && c ≤ 'F') || c == '_') ds
  | '0' :: ds => nonEmpty (fun c => ('0' ≤ c && c ≤ '7') || c == '_') ds
  | d :: ds =>
    d.isDigit &&
      let rest := ds.dropWhile isDigitOrUnderscore
      rest.isEmpty || isSixties rest
  | [] => false

/-- Whether characters are a date, or a date with a time of day. A date alone has two digits in
each part after the year. -/
def isTimestamp (cs : List Char) : Bool :=
  match Timestamp.parse? cs with
  | some t => t.clock.isSome || cs.length == 10
  | none => false

/-- The text that is looked at: one line feed at the end does not count, unless it is all. -/
def withoutLastBreak (cs : List Char) : List Char :=
  if cs.length > 1 && cs.getLast? == some '\n' then cs.dropLast else cs

def implied (s : String) : String :=
  let cs := withoutLastBreak s.toList
  let t := String.ofList cs
  if booleanWords.any (·.1 == t) then bool
  else if isFloat cs then float
  else if isInt cs then int
  else if t == "<<" then merge
  else if nullWords.contains t then null
  else if isTimestamp cs then timestamp
  else if t == "=" then value
  else if ["!", "&", "*"].contains t then document
  else text

end RamlBridge.Yaml.Tag

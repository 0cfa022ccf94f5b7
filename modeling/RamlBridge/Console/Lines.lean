import RamlBridge.Console.Cells
import RamlBridge.Console.Markup

/-!
Lines for a console: long ones are broken between words.
-/
namespace RamlBridge.Console

/-- Characters that move the cursor and are left out. -/
def isControl (c : Char) : Bool := [7, 8, 11, 12, 13].contains c.toNat

/-- A line with its tabs filled up to columns that are multiples of eight. -/
def withoutTabs (column : Nat) : List Char → List Char
  | [] => []
  | '\t' :: rest =>
    let width := 8 - column % 8
    List.replicate width ' ' ++ withoutTabs (column + width) rest
  | c :: rest => c :: withoutTabs (column + cellsOf c) rest

def width : Nat := 1000

/-- A word with the blanks around it, and what follows it. -/
def word (cs : List Char) : List Char × List Char :=
  let blanks := cs.takeWhile Text.isBlank
  let rest := cs.dropWhile Text.isBlank
  let letters := rest.takeWhile (!Text.isBlank ·)
  let rest := rest.dropWhile (!Text.isBlank ·)
  (blanks ++ letters ++ rest.takeWhile Text.isBlank, rest.dropWhile Text.isBlank)

/-- Characters in groups that fit, behind the group in hand, which comes in reverse. -/
def folded (inHand : List Char) : List Char → List (List Char)
  | [] => [inHand.reverse]
  | c :: rest =>
    if width < cells inHand + cellsOf c then inHand.reverse :: folded [c] rest
    else folded (c :: inHand) rest

/-- A line broken into lines that fit; the line in hand comes first. Blanks at the end of a word
may stick out. -/
def brokenLines : Nat → List Char → List Char → List (List Char)
  | 0, line, _ => [line]
  | fuel + 1, line, cs =>
    if cs.isEmpty then [line]
    else
      let (w, rest) := word cs
      let letters := w.reverse.dropWhile Text.isBlank
      if cells line + cells letters ≤ width then brokenLines fuel (line ++ w) rest
      else if cells letters > width then
        let parts := folded [] w
        (if line.isEmpty then [] else [line]) ++ parts.dropLast ++
          brokenLines fuel (parts.getLastD []) rest
      else line :: brokenLines fuel w rest

/-- The characters of a line that fit. Half a wide one is a space. -/
def fitting (line : List Char) : List Char :=
  match folded [] line with
  | first :: _ :: _ => if cells first < width then first ++ [' '] else first
  | _ => line

/-- A line without the blanks at its end that stick out. -/
def cropped (line : List Char) : List Char :=
  let blanks := (line.reverse.takeWhile Text.isBlank).length
  fitting (line.take (line.length - min blanks (line.length - width)))

def lines (text : String) : Except MarkupFault String := do
  let cs ← shown text
  let lines := (Text.split '\n' (cs.filter (!isControl ·))).flatMap fun line =>
    let line := withoutTabs 0 line
    (brokenLines (line.length + 1) [] line).map cropped
  .ok (String.ofList (Text.join '\n' lines ++ ['\n']))

end RamlBridge.Console

import LayeredSettings.Console.Width
import LayeredSettings.Text.Blank
import LayeredSettings.Text.Split

namespace LayeredSettings

/-- The controls that a terminal would act upon. -/
def isTerminalControl (c : Char) : Bool := [7, 8, 11, 12, 13].contains c.toNat

/-- Puts blanks in place of tabs, up to the next column that is a multiple of eight. -/
def expandTabs (column : Nat) : List Char → List Char
  | [] => []
  | c :: rest =>
    if c = '\t' then
      let stop := (column / 8 + 1) * 8
      List.replicate (stop - column) ' ' ++ expandTabs stop rest
    else c :: expandTabs (column + charWidth c) rest

/-- The lines of a text as they are shown. -/
def shownLines (s : List Char) : List (List Char) :=
  (splitAt '\n' (s.filter (!isTerminalControl ·))).map (expandTabs 0)

/-- A text as a terminal shows it that is wide enough for every line. -/
def shown (s : List Char) : List Char := joinWith '\n' (shownLines s)

/-- As much of a text as fits into some cells, filled up with blanks if the next
character would need more cells than are left. -/
def fitting (cells : Nat) : List Char → List Char
  | [] => []
  | c :: rest =>
    if charWidth c ≤ cells then c :: fitting (cells - charWidth c) rest
    else List.replicate cells ' '

/-- The parts of a word that fit into some cells each. -/
def chopped (cells used : Nat) (part : List Char) : List Char → List (List Char)
  | [] => [part]
  | c :: rest =>
    if used + charWidth c > cells then part :: chopped cells (charWidth c) [c] rest
    else chopped cells (used + charWidth c) (part ++ [c]) rest

/-- Words with the blanks after them, and the first one also with those before it. -/
def wordsOf (word : List Char) : List Char → List (List Char)
  | [] => if word.all isBlank then [] else [word]
  | c :: rest =>
    if !isBlank c && word.getLast?.any isBlank && !word.all isBlank then word :: wordsOf [c] rest
    else wordsOf (word ++ [c]) rest

def dropBlankEnd (s : List Char) : List Char := (s.reverse.dropWhile isBlank).reverse

/-- What becomes of a line that is too long: its words are folded, or it is cut and
ends in an ellipsis. -/
inductive Overflow where
  | fold
  | ellipsis
  deriving DecidableEq, Repr

/-- Puts words on lines, of which `line` is the last with `used` cells taken. A word goes
to the next line if it fits there. -/
def layWords (overflow : Overflow) (cells used : Nat) (line : List Char) :
    List (List Char) → List (List Char)
  | [] => [line]
  | word :: rest =>
    let needed := textWidth (dropBlankEnd word)
    if used + needed ≤ cells then
      layWords overflow cells (used + textWidth word) (line ++ word) rest
    else
      let before := if line.isEmpty then [] else [line]
      if needed > cells && overflow = .fold then
        let parts := chopped cells 0 [] word
        let last := parts.getLastD []
        before ++ parts.dropLast ++ layWords overflow cells (textWidth last) last rest
      else before ++ layWords overflow cells (textWidth word) word rest

/-- A line without the blanks at its end that are too many, and cut if it is still too
long. -/
def cutLine (overflow : Overflow) (cells : Nat) (line : List Char) : List Char :=
  let blanks := line.length - (dropBlankEnd line).length
  let line := line.take (line.length - min blanks (line.length - cells))
  if textWidth line ≤ cells then line
  else match overflow with
    | .fold => fitting cells line
    | .ellipsis => fitting (cells - 1) line ++ ['…']

/-- The lines of a text within some cells. -/
def wrapped (overflow : Overflow) (cells : Nat) (s : List Char) : List (List Char) :=
  (shownLines s).flatMap fun line =>
    let words := wordsOf [] line
    (if words.isEmpty then [line] else layWords overflow cells 0 [] words).map
      (cutLine overflow cells)

end LayeredSettings

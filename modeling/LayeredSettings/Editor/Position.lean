import LayeredSettings.Failure
import LayeredSettings.Placeholder.Grammar

namespace LayeredSettings

/-- A place in a document: a line, and a character in it, both counted from zero. -/
structure Position where
  line : Nat
  character : Nat
  deriving DecidableEq, Repr

/-- The largest number of a line or character. -/
def Position.limit : Int := 2147483647

/-- A line and a character as a place, if both are in range. -/
def Position.check (line character : Int) : Except Failure Position :=
  if line < 0 ∨ line > Position.limit then .error (.positionRange "line" line)
  else if character < 0 ∨ character > Position.limit then
    .error (.positionRange "character" character)
  else .ok ⟨line.toNat, character.toNat⟩

/-- The lines of a document. -/
def documentLines (text : String) : List (List Char) := splitAt '\n' text.toList

def lineAt? (text : String) (p : Position) : Option (List Char) := (documentLines text)[p.line]?

/-- What stands on the line before the place. -/
def textBefore (text : String) (p : Position) : List Char :=
  ((lineAt? text p).getD []).take p.character

/-- What follows the last opening of a placeholder. -/
def afterLastOpening? : List Char → Option (List Char)
  | [] => none
  | '$' :: '{' :: rest => (afterLastOpening? rest).or (some rest)
  | _ :: rest => afterLastOpening? rest

/-- The inside of the placeholder that is open at the end of a text, if there is one. -/
def openPlaceholder? (s : List Char) : Option (List Char) :=
  (afterLastOpening? s).filter fun inside => !inside.contains '}'

/-- The placeholder at a place, with its positions on the line. -/
def placeholderAt? (text : String) (p : Position) : Option Placeholder :=
  (lineAt? text p).bind fun line =>
    (findPlaceholders (String.ofList line)).find? fun placeholder =>
      placeholder.start ≤ p.character && p.character < placeholder.stop

end LayeredSettings

import LayeredSettings.Console.Emoji.EarlyPictures
import LayeredSettings.Console.Emoji.LatePictures
import LayeredSettings.Console.Emoji.Persons
import LayeredSettings.Number.Reading
import LayeredSettings.Text.Case
import LayeredSettings.Text.Split

namespace LayeredSettings

/-- The picture of a name in entries that each give a name and, behind it, code points. -/
def pictureIn? (entries : List String) (name : List Char) : Option (List Char) :=
  entries.findSome? fun line => (splitAt ';' line.toList).findSome? fun entry =>
    match splitAt ' ' entry with
    | own :: codes =>
      if own = name then
        some (codes.filterMap fun code => (digitsOf? 16 code).map fun digits => Char.ofNat (numberOf 16 digits))
      else none
    | [] => none

/-- The picture of a name that is listed under its first character. -/
def listedPicture? (name : List Char) : Option (List Char) :=
  match name with
  | [] => none
  | first :: _ => ((earlyPictures ++ latePictures).lookup first).bind (pictureIn? · name)

/-- How names of persons end that are drawn in a tone of skin, and the character for the tone. -/
def skinTones : List (String × Nat) := [
  ("_light_skin_tone", 0x1F3FB), ("_medium-light_skin_tone", 0x1F3FC), ("_medium_skin_tone", 0x1F3FD),
  ("_medium-dark_skin_tone", 0x1F3FE), ("_dark_skin_tone", 0x1F3FF)]

/-- The mark that a character is to be drawn in colours, and the one that it is to be drawn as text. -/
def colourMark : Char := '\uFE0F'

def textMark : Char := '\uFE0E'

/-- A picture with a tone behind its first character, in the place of a mark that stands there. -/
def withTone (tone : Char) : List Char → List Char
  | [] => []
  | c :: rest => c :: tone :: (if rest.head? = some colourMark then rest.drop 1 else rest)

/-- The part of a text in front of an ending. -/
def beforeEnding? (ending : String) (s : List Char) : Option (List Char) :=
  if ending.toList.isSuffixOf s then some (s.take (s.length - ending.length)) else none

/-- The picture of a name in small letters. -/
def pictureNamed? (name : List Char) : Option (List Char) :=
  ((listedPicture? name).or (pictureIn? personPictures name)).or <|
    skinTones.findSome? fun (ending, tone) =>
      ((beforeEnding? ending name).bind (pictureIn? personPictures)).map (withTone (Char.ofNat tone))

/-- The picture that a code stands for: a name in letters of either case, and perhaps how the picture is to be
drawn. -/
def picture? (code : List Char) : Option (List Char) :=
  match beforeEnding? "-emoji" code, beforeEnding? "-text" code with
  | some name, _ => (pictureNamed? (lowercase name)).map (· ++ [colourMark])
  | none, some name => (pictureNamed? (lowercase name)).map (· ++ [textMark])
  | none, none => pictureNamed? (lowercase code)

/-- Puts pictures in place of codes between two colons, without blanks in them. `opened` is what has been read since
a colon that may begin a code. A code without a picture stays as it is written, and its second colon begins no
other one. -/
def drawnFrom (opened : Option (List Char)) (s : List Char) : List Char :=
  match opened, s with
  | none, [] => []
  | some code, [] => ':' :: code
  | none, c :: rest => if c = ':' then drawnFrom (some []) rest else c :: drawnFrom none rest
  | some code, c :: rest =>
    if c = ':' then (picture? code).getD (':' :: code ++ [':']) ++ drawnFrom none rest
    else if isBlank c then ':' :: code ++ c :: drawnFrom none rest
    else drawnFrom (some (code ++ [c])) rest

/-- A text with pictures in place of their codes. -/
def drawn (s : List Char) : List Char := drawnFrom none s

end LayeredSettings

import LayeredSettings.Text.CharacterName.Ancient
import LayeredSettings.Text.CharacterName.Asian
import LayeredSettings.Text.CharacterName.Coded
import LayeredSettings.Text.CharacterName.Cuneiform
import LayeredSettings.Text.CharacterName.European
import LayeredSettings.Text.CharacterName.Gesture
import LayeredSettings.Text.CharacterName.Hieroglyph
import LayeredSettings.Text.CharacterName.Ideographic
import LayeredSettings.Text.CharacterName.Indic
import LayeredSettings.Text.CharacterName.Mathematical
import LayeredSettings.Text.CharacterName.Music
import LayeredSettings.Text.CharacterName.Other
import LayeredSettings.Text.CharacterName.Phonetic
import LayeredSettings.Text.CharacterName.Pictograph
import LayeredSettings.Text.CharacterName.Presentation
import LayeredSettings.Text.CharacterName.Semitic
import LayeredSettings.Text.CharacterName.Shape
import LayeredSettings.Text.CharacterName.Syllabic
import LayeredSettings.Text.CharacterName.Syllable
import LayeredSettings.Text.CharacterName.Symbol
import LayeredSettings.Text.CharacterName.Yi

namespace LayeredSettings

/-- All names that are made up of words, in the order of their code points. -/
def nameRuns : List (List NameRun) := [
  europeanNames, semiticNames, indicNames, asianNames, syllabicNames, phoneticNames,
  symbolNames, shapeNames, ideographicNames, yiNames, presentationNames, ancientNames,
  cuneiformNames, hieroglyphNames, musicNames, mathematicalNames, gestureNames, pictographNames]

/-- The code point of a name in capital letters that is found in a table. -/
def listedName? (name : List Char) : Option Nat :=
  let words := splitAt ' ' name
  (nameRuns.findSome? fun runs => runs.findSome? fun run => run.find? words).or
    ((otherNames.find? fun other => other.2 = String.ofList name).map (·.1))

/-- The code point of a character by its name, capital and small letters being
alike. Only for syllables and ideographs that are named by a rule they are not. -/
def characterNamed? (name : List Char) : Option Nat :=
  if syllableHeading.isPrefixOf name then syllable? (name.drop syllableHeading.length)
  else if ideographHeading.isPrefixOf name then
    (ideographCode? (name.drop ideographHeading.length)).filter ideographRanges.covers
  else
    let capitals := name.map Char.toUpper
    (codedName? capitals).or (listedName? capitals)

end LayeredSettings

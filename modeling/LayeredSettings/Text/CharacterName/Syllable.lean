namespace LayeredSettings

/-- The names of the sounds that begin a Korean syllable, in the order of the code. -/
def initialSounds : List String := ["G", "GG", "N", "D", "DD", "R", "M", "B", "BB", "S", "SS", "",
  "J", "JJ", "C", "K", "T", "P", "H"]

def middleSounds : List String := ["A", "AE", "YA", "YAE", "EO", "E", "YEO", "YE", "O", "WA", "WAE",
  "OE", "YO", "U", "WEO", "WE", "WI", "YU", "EU", "YI", "I"]

def finalSounds : List String := ["", "G", "GG", "GS", "N", "NJ", "NH", "D", "L", "LG", "LM", "LB",
  "LS", "LT", "LP", "LH", "M", "B", "BS", "S", "SS", "NG", "J", "C", "K", "T", "P", "H"]

/-- The place of the longest sound that a text begins with, and what follows it. -/
def takeSound? (sounds : List String) (s : List Char) : Option (Nat × List Char) :=
  sounds.zipIdx.foldl (fun (best : Option (Nat × List Char)) (sound, place) =>
    let rest := s.drop sound.length
    let longer := match best with
      | none => true
      | some (_, left) => rest.length < left.length
    if sound.toList.isPrefixOf s && longer then some (place, rest) else best) none

def syllableHeading : List Char := "HANGUL SYLLABLE ".toList

/-- The code point of a Korean syllable by the sounds it is written with. -/
def syllable? (s : List Char) : Option Nat := do
  let (front, afterFront) ← takeSound? initialSounds s
  let (middle, afterMiddle) ← takeSound? middleSounds afterFront
  let (back, rest) ← takeSound? finalSounds afterMiddle
  guard rest.isEmpty
  return 0xAC00 + (front * 21 + middle) * 28 + back

end LayeredSettings

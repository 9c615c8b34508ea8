import LayeredSettings.Text.CaseTable

namespace LayeredSettings

/-- Whether the nearest character that is not looked through is a cased letter. -/
def casedNeighbour : List Char → Bool
  | [] => false
  | c :: rest =>
    if caseIgnorableRanges.covers c.toNat then casedNeighbour rest
    else casedRanges.covers c.toNat

/-- Lower case of one character between its neighbours, the ones before it in
reverse. A capital sigma that ends a word becomes the final sigma, and a dotted
capital I keeps its dot as a combining mark. -/
def lowerChar (before : List Char) (c : Char) (after : List Char) : List Char :=
  if c = 'Σ' then
    if casedNeighbour before && !casedNeighbour after then ['ς'] else ['σ']
  else if c = 'İ' then ['i', '\u0307']
  else [((lowerRuns.findSome? fun run => run.apply? c.toNat).map Char.ofNat).getD c]

def lowerFrom (before : List Char) : List Char → List Char
  | [] => []
  | c :: rest => lowerChar before c rest ++ lowerFrom (c :: before) rest

/-- Full lower case of a text, which may be longer than the text. -/
def lowercase (s : List Char) : List Char := lowerFrom [] s

def upperChar (c : Char) : List Char :=
  match upperExpansions.lookup c.toNat with
  | some codes => codes.map Char.ofNat
  | none => [((upperRuns.findSome? fun run => run.apply? c.toNat).map Char.ofNat).getD c]

/-- Full upper case of a text, which may be longer than the text. -/
def uppercase (s : List Char) : List Char := s.flatMap upperChar

end LayeredSettings

import LayeredSettings.Pattern.State
import LayeredSettings.Number.Reading
import LayeredSettings.Text.CharacterName

namespace LayeredSettings

/-- What an escape stands for: one character, a class of characters, a position, or
what a group has matched. -/
inductive EscapeMeaning where
  | code (n : Nat)
  | category
  | position
  | reference (width : Width)
  deriving DecidableEq, Repr

def isHexFigure (c : Char) : Bool := (digitValue? 16 c).isSome

def isOctalFigure (c : Char) : Bool := '0' ≤ c && c ≤ '7'

def isFigure (c : Char) : Bool := '0' ≤ c && c ≤ '9'

def figuresValue (base : Nat) (s : List Char) : Nat := numberOf base (s.filterMap (digitValue? base))

namespace PatternReader

/-- A character by its code in a fixed number of hexadecimal digits. A code that is no
number of the machine is not even refused as an escape. -/
def hexCode (letter : Char) (count : Nat) : PatternReader EscapeMeaning := do
  let figures ← takeWhile count isHexFigure
  let text := '\\' :: letter :: figures
  let n := figuresValue 16 figures
  if figures.length ≠ count then failBefore (.incompleteEscape text) text.length
  else if n ≥ Nat.pow 2 31 then throw (.codeTooLarge n)
  else if n > 0x10FFFF then failBefore (.badEscape text) text.length
  else return .code n

/-- A character by its name in braces. -/
def namedCode : PatternReader EscapeMeaning := do
  if !(← accept '{') then failBefore (.missing "\x7b") 0
  let name ← takeName '}' "character name"
  match characterNamed? name with
  | some n => return .code n
  | none => failBefore (.unknownCharacter name) (name.length + 4)

/-- A character by an octal number, which may not be greater than a byte. -/
def octalCode (figures : List Char) : PatternReader EscapeMeaning := do
  let n := figuresValue 8 figures
  if n > 0o377 then
    let text := '\\' :: figures
    failBefore (.octalTooLarge text) text.length
  return .code n

/-- The meaning of an escape of one letter that is the same everywhere. -/
def controlCode? (c : Char) : Option Nat :=
  [('a', 7), ('f', 12), ('n', 10), ('r', 13), ('t', 9), ('v', 11), ('\\', 92)].lookup c

def isCategory (c : Char) : Bool := ['d', 'D', 's', 'S', 'w', 'W'].contains c

def isBoundary (c : Char) : Bool := ['A', 'b', 'B', 'Z'].contains c

/-- A single escaped character. Letters that mean nothing are refused. -/
def plainEscape (c : Char) : PatternReader EscapeMeaning := do
  if c.isAlphanum then failBefore (.badEscape ['\\', c]) 2 else return .code c.toNat

/-- An escape inside a set of characters. -/
def setEscape (c : Char) : PatternReader EscapeMeaning := do
  if let some n := controlCode? c then return .code n
  if c = 'b' then return .code 8
  if isCategory c then return .category
  if c = 'x' then hexCode 'x' 2
  else if c = 'u' then hexCode 'u' 4
  else if c = 'U' then hexCode 'U' 8
  else if c = 'N' then namedCode
  else if isOctalFigure c then octalCode (c :: (← takeWhile 2 isOctalFigure))
  else plainEscape c

/-- A group that is referred to must be closed, and inside a look behind it must
have been there before the look behind began. -/
def checkLookBehind (group : Nat) : PatternReader Unit := do
  let s ← get
  if let some first := s.lookBehind then
    if (s.groups[group]?.bind id).isNone then failBefore .openGroup 0
    if group ≥ first then failBefore .groupOfSameLookBehind 0

def groupEscape (text : List Char) : PatternReader EscapeMeaning := do
  let group := figuresValue 10 (text.drop 1)
  match (← get).groups[group]? with
  | none => failBefore (.invalidGroup group) (text.length - 1)
  | some none => failBefore .openGroup text.length
  | some (some width) =>
    checkLookBehind group
    return .reference width

/-- An escape that begins with a figure other than zero: three octal figures are a
character, all else refers to a group. -/
def numberEscape (first : Char) : PatternReader EscapeMeaning := do
  match ← takeWhile 1 isFigure with
  | [second] =>
    if isOctalFigure first && isOctalFigure second then
      match ← takeWhile 1 isOctalFigure with
      | [third] => octalCode [first, second, third]
      | _ => groupEscape ['\\', first, second]
    else groupEscape ['\\', first, second]
  | _ => groupEscape ['\\', first]

/-- An escape outside of sets. -/
def itemEscape (c : Char) : PatternReader EscapeMeaning := do
  if isCategory c then return .category
  if isBoundary c then return .position
  if let some n := controlCode? c then return .code n
  if c = 'x' then hexCode 'x' 2
  else if c = 'u' then hexCode 'u' 4
  else if c = 'U' then hexCode 'U' 8
  else if c = 'N' then namedCode
  else if c = '0' then return .code (figuresValue 8 (← takeWhile 2 isOctalFigure))
  else if isFigure c then numberEscape c
  else plainEscape c

end PatternReader

end LayeredSettings

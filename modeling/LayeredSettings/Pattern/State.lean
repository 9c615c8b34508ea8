import LayeredSettings.Pattern.Form

namespace LayeredSettings

/-- A character of a pattern, or a backslash with the character after it. -/
abbrev PatternToken := List Char

/-- Splits a pattern into tokens, and says whether a backslash without a character
is left over. -/
def patternTokens : List Char → List PatternToken × Bool
  | [] => ([], false)
  | ['\\'] => ([], true)
  | '\\' :: c :: rest =>
    let (tokens, dangling) := patternTokens rest
    (['\\', c] :: tokens, dangling)
  | c :: rest =>
    let (tokens, dangling) := patternTokens rest
    ([c] :: tokens, dangling)

/-- What is left of a pattern and what is known from the part already read: the
flags set for all of it, the widths of the groups that are closed, the names of
groups, the group from which a look behind may not refer, and the numbers that
conditions refer to with their places. -/
structure PatternState where
  tokens : List PatternToken
  dangling : Bool
  position : Nat
  flags : List Char
  groups : List (Option Width)
  names : List (List Char × Nat)
  lookBehind : Option Nat
  conditions : List (Nat × Nat)

abbrev PatternReader := StateT PatternState (Except PatternFailure)

namespace PatternReader

def failAt (fault : PatternFault) (position : Nat) : PatternReader α :=
  throw (.invalid fault (some position))

/-- Fails at a distance before the token that comes next. -/
def failBefore (fault : PatternFault) (distance : Nat) : PatternReader α := do
  failAt fault ((← get).position - distance)

def next? : PatternReader (Option PatternToken) := return (← get).tokens.head?

/-- A backslash left over at the end is noticed as soon as it comes next. -/
def checkDangling : PatternReader Unit := do
  let s ← get
  if s.tokens.isEmpty && s.dangling then failAt .escapeAtEnd s.position

def take? : PatternReader (Option PatternToken) := do
  match (← get).tokens with
  | [] => return none
  | token :: rest =>
    modify fun s => { s with tokens := rest, position := s.position + token.length }
    checkDangling
    return some token

/-- Takes the next token if it is the given character. -/
def accept (c : Char) : PatternReader Bool := do
  if (← next?) = some [c] then
    let _ ← take?
    return true
  else return false

/-- Takes characters of a kind, up to a count. -/
def takeWhile (count : Nat) (kind : Char → Bool) : PatternReader (List Char) := do
  match count with
  | 0 => return []
  | count + 1 =>
    match ← next? with
    | some [c] =>
      if kind c then
        let _ ← take?
        return c :: (← takeWhile count kind)
      else return []
    | _ => return []

def takeNameFrom (closer : Char) (what : String) (count : Nat) (name : List Char) :
    PatternReader (List Char) := do
  match ← take?, count with
  | some token, count + 1 =>
    if token = [closer] then
      if name.isEmpty then failBefore (.missing what) 1 else return name
    else takeNameFrom closer what count (name ++ token)
  | _, _ =>
    if name.isEmpty then failBefore (.missing what) 0
    else failBefore (.unclosedName closer) name.length

/-- Takes what stands before a closing character, and that character. What is
missing is named in the fault. -/
def takeName (closer : Char) (what : String) : PatternReader (List Char) := do
  takeNameFrom closer what (← get).tokens.length []

end PatternReader

end LayeredSettings

import LayeredSettings.Text.Quoted

namespace LayeredSettings

/-- How often a repeated item may give characters back. -/
inductive RepeatMode where
  | greedy
  | lazy
  | possessive
  deriving DecidableEq, Repr

def RepeatMode.name : RepeatMode → String
  | .greedy => "MAX_REPEAT"
  | .lazy => "MIN_REPEAT"
  | .possessive => "POSSESSIVE_REPEAT"

/-- What is wrong with a filter pattern. -/
inductive PatternFault where
  | patternEnd
  | unclosedGroup
  | unopenedGroup
  | unclosedSet
  | unclosedComment
  | nothingToRepeat
  | repeatedRepeat
  | emptyRepeatRange
  | missing (what : String)
  | unclosedName (closer : Char)
  | badGroupName (name : List Char)
  | groupRedefined (name : List Char) (group earlier : Nat)
  | unknownGroup (name : List Char)
  | openGroup
  | groupOfSameLookBehind
  | badGroupNumber
  | invalidGroup (number : Nat)
  | tooManyBranches
  | unknownExtension (text : List Char)
  | unknownFlag
  | lateFlags
  | localeFlag
  | typeFlagsTogether
  | globalFlagOn
  | globalFlagOff
  | typeFlagOff
  | flagOnAndOff
  | escapeAtEnd
  | badEscape (text : List Char)
  | incompleteEscape (text : List Char)
  | octalTooLarge (text : List Char)
  | unknownCharacter (name : List Char)
  | badRange (first last : List Char)
  | lookBehindWidth
  | templateRepeat (mode : RepeatMode)
  deriving DecidableEq, Repr

def PatternFault.text : PatternFault → String
  | .patternEnd => "unexpected end of pattern"
  | .unclosedGroup => "missing ), unterminated subpattern"
  | .unopenedGroup => "unbalanced parenthesis"
  | .unclosedSet => "unterminated character set"
  | .unclosedComment => "missing ), unterminated comment"
  | .nothingToRepeat => "nothing to repeat"
  | .repeatedRepeat => "multiple repeat"
  | .emptyRepeatRange => "min repeat greater than max repeat"
  | .missing what => "missing " ++ what
  | .unclosedName closer => "missing " ++ closer.toString ++ ", unterminated name"
  | .badGroupName name => "bad character in group name " ++ String.ofList (quoteChars name)
  | .groupRedefined name group earlier =>
    "redefinition of group name " ++ String.ofList (quoteChars name) ++ " as group " ++
      toString group ++ "; was group " ++ toString earlier
  | .unknownGroup name => "unknown group name " ++ String.ofList (quoteChars name)
  | .openGroup => "cannot refer to an open group"
  | .groupOfSameLookBehind => "cannot refer to group defined in the same lookbehind subpattern"
  | .badGroupNumber => "bad group number"
  | .invalidGroup number => "invalid group reference " ++ toString number
  | .tooManyBranches => "conditional backref with more than two branches"
  | .unknownExtension text => "unknown extension ?" ++ String.ofList text
  | .unknownFlag => "unknown flag"
  | .lateFlags => "global flags not at the start of the expression"
  | .localeFlag => "bad inline flags: cannot use 'L' flag with a str pattern"
  | .typeFlagsTogether => "bad inline flags: flags 'a', 'u' and 'L' are incompatible"
  | .globalFlagOn => "bad inline flags: cannot turn on global flag"
  | .globalFlagOff => "bad inline flags: cannot turn off global flag"
  | .typeFlagOff => "bad inline flags: cannot turn off flags 'a', 'u' and 'L'"
  | .flagOnAndOff => "bad inline flags: flag turned on and off"
  | .escapeAtEnd => "bad escape (end of pattern)"
  | .badEscape text => "bad escape " ++ String.ofList text
  | .incompleteEscape text => "incomplete escape " ++ String.ofList text
  | .octalTooLarge text => "octal escape value " ++ String.ofList text ++ " outside of range 0-0o377"
  | .unknownCharacter name => "undefined character name " ++ String.ofList (quoteChars name)
  | .badRange first last => "bad character range " ++ String.ofList first ++ "-" ++ String.ofList last
  | .lookBehindWidth => "look-behind requires fixed-width pattern"
  | .templateRepeat mode => "internal: unsupported template operator " ++ mode.name

/-- Why a pattern cannot be used. Only the first is a fault of its form that is
reported as such; the others are limits of the machine that would run it. -/
inductive PatternFailure where
  | invalid (fault : PatternFault) (position : Option Nat)
  | repetitionTooLarge
  | tooManyDigits (count : Nat)
  | incompatibleFlags
  | codeTooLarge (code : Nat)
  | looksTooFar
  | tooDeep
  deriving DecidableEq, Repr

/-- The number of the line, and the column in it, of a position, both from one. -/
def lineAndColumn (text : List Char) (position : Nat) : Nat × Nat :=
  let before := text.take position
  (before.count '\n' + 1, (before.reverse.takeWhile (· ≠ '\n')).length + 1)

/-- The fault with its position, and in a text of several lines with the line and
column of it. -/
def PatternFault.message (fault : PatternFault) (pattern : String) : Option Nat → String
  | none => fault.text
  | some position =>
    let text := fault.text ++ " at position " ++ toString position
    let chars := pattern.toList
    if chars.contains '\n' then
      let (line, column) := lineAndColumn chars position
      text ++ s!" (line {line}, column {column})"
    else text

end LayeredSettings

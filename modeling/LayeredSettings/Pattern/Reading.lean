import LayeredSettings.Pattern.Escape
import LayeredSettings.Text.Identifier

namespace LayeredSettings

namespace PatternReader

def Form.ofEscape : EscapeMeaning → Form
  | .code _ => .character
  | .category => .character
  | .position => .position
  | .reference width => .reference width

/-- The end of a range in a set, and what it stands for. -/
def setMember (token : PatternToken) : PatternReader EscapeMeaning := do
  match token with
  | ['\\', c] => setEscape c
  | [c] => return .code (codeOfChar c)
  | _ => return .category

/-- Members of a set of characters up to the closing bracket, which counts as a
member in the first place. -/
def setMembers (start count : Nat) (first : Bool) : PatternReader Unit := do
  match ← take?, count with
  | some token, count + 1 =>
    if token = [']'] && !first then return
    let low ← setMember token
    if ← accept '-' then
      match ← take? with
      | none => failAt .unclosedSet start
      | some [']'] => return
      | some last =>
        let high ← setMember last
        let fault := PatternFault.badRange token last
        match low, high with
        | .code m, .code n =>
          if n < m then failBefore fault (token.length + 1 + last.length)
        | _, _ => failBefore fault (token.length + 1 + last.length)
        setMembers start count false
    else setMembers start count false
  | _, _ => failAt .unclosedSet start

/-- A set of characters, whose opening bracket stood at `start`. -/
def characterSet (start : Nat) : PatternReader Form := do
  let _ ← accept '^'
  setMembers start (← get).tokens.length true
  return .character

/-- The value of the figures of a repetition count. -/
def repeatCount (figures : List Char) : PatternReader Nat := do
  if figures.length > digitLimit then throw (.tooManyDigits figures.length)
  let n := figuresValue 10 figures
  if n ≥ repeatLimit then throw .repetitionTooLarge
  return n

/-- The bounds in braces after an opening one. None if this is no repetition, and
then the brace stands for itself and nothing has been taken. -/
def braceBounds : PatternReader (Option (Nat × Nat)) := do
  if (← next?) = some ['}'] then return none
  let before ← get
  let length := before.tokens.length
  let low ← takeWhile length isFigure
  let comma ← accept ','
  let high ← if comma then takeWhile length isFigure else pure low
  if !(← accept '}') then
    set before
    return none
  let least ← if low.isEmpty then pure 0 else repeatCount low
  let most ← if high.isEmpty then pure repeatLimit else repeatCount high
  if most < least then failAt .emptyRepeatRange before.position
  return some (least, most)

/-- The bounds a repeating character sets. -/
def repeatBounds (c : Char) : PatternReader (Option (Nat × Nat)) :=
  if c = '?' then pure (some (0, 1))
  else if c = '*' then pure (some (0, repeatLimit))
  else if c = '+' then pure (some (1, repeatLimit))
  else braceBounds

/-- What a mark behind the bounds says about how often to repeat. -/
def repeatMode : PatternReader RepeatMode := do
  if ← accept '?' then return .lazy
  if ← accept '+' then return .possessive
  return .greedy

/-- Repeats the last of the items, given in reverse. A position cannot be repeated,
nor can a repetition. -/
def repeatLast (start : Nat) (bounds : Nat × Nat) (items : List Form) :
    PatternReader (List Form) := do
  match items with
  | [] => failAt .nothingToRepeat start
  | item :: others =>
    if item.isPosition then failAt .nothingToRepeat start
    if item.isRepeated then failAt .repeatedRepeat start
    return .repeated (← repeatMode) bounds.1 bounds.2 item :: others

def isFlag (token : PatternToken) : Bool :=
  ["i", "L", "m", "s", "x", "a", "t", "u"].any fun flag => flag.toList = token

def isTypeFlag (token : PatternToken) : Bool := token = ['a'] || token = ['u'] || token = ['L']

/-- What is wrong with a token that is no flag where one of some characters should
have ended the flags. -/
def flagFault (missing : String) (token : PatternToken) : PatternFault :=
  match token with
  | [c] => if isLetter c then .unknownFlag else .missing missing
  | _ => .missing missing

/-- Flags that are turned on, from the first one on, and the character that ends
them. -/
def flagsOn (count : Nat) (flag : PatternToken) (flags : List Char) :
    PatternReader (List Char × PatternToken) := do
  if flag = ['L'] then failBefore .localeFlag 0
  let flags := flags ++ flag
  if isTypeFlag flag && flags.any (fun f => isTypeFlag [f] && [f] ≠ flag) then
    failBefore .typeFlagsTogether 0
  match ← take?, count with
  | some token, count + 1 =>
    if token = [')'] || token = ['-'] || token = [':'] then return (flags, token)
    if !isFlag token then failBefore (flagFault "-, : or )" token) token.length
    flagsOn count token flags
  | _, _ => failBefore (.missing "-, : or )") 0

/-- Flags that are turned off, from the first one on, up to a colon. -/
def flagsOff (count : Nat) (flag : PatternToken) (flags : List Char) :
    PatternReader (List Char) := do
  if isTypeFlag flag then failBefore .typeFlagOff 0
  let flags := flags ++ flag
  match ← take?, count with
  | some token, count + 1 =>
    if token = [':'] then return flags
    if !isFlag token then failBefore (flagFault ":" token) token.length
    flagsOff count token flags
  | _, _ => failBefore (.missing ":") 0

/-- Reads flags, the first token of which has been taken: those turned on and those
turned off for a group, or none if they are set for the whole pattern. -/
def inlineFlags (first : PatternToken) : PatternReader (Option (List Char × List Char)) := do
  let count := (← get).tokens.length
  let (on, ending) ← if first = ['-'] then pure ([], ['-']) else flagsOn count first []
  if ending = [')'] then
    modify fun s => { s with flags := s.flags ++ on }
    return none
  if on.contains 't' then failBefore .globalFlagOn 1
  let off ← if ending = ['-'] then
      match ← take? with
      | none => failBefore (.missing "flag") 0
      | some token =>
        if !isFlag token then failBefore (flagFault "flag" token) token.length
        flagsOff count token []
    else pure []
  if off.contains 't' then failBefore .globalFlagOff 1
  if on.any off.contains then failBefore .flagOnAndOff 1
  return some (on, off)

/-- Opens the next group, under a name if it has one. -/
def openGroup (name : Option (List Char)) : PatternReader Nat := do
  let s ← get
  let group := s.groups.length
  match name with
  | none => pure ()
  | some name =>
    if let some earlier := s.names.lookup name then
      failBefore (.groupRedefined name group earlier) (name.length + 1)
    modify fun s => { s with names := s.names ++ [(name, group)] }
  modify fun s => { s with groups := s.groups ++ [none] }
  return group

def closeGroup (group : Nat) (width : Width) : PatternReader Unit :=
  modify fun s => { s with groups := s.groups.set group (some width) }

def checkGroupName (name : List Char) : PatternReader Unit := do
  if !isIdentifier name then failBefore (.badGroupName name) (name.length + 1)

/-- What a named group has matched. -/
def namedReference : PatternReader Form := do
  let name ← takeName ')' "group name"
  checkGroupName name
  let s ← get
  match s.names.lookup name with
  | none => failBefore (.unknownGroup name) (name.length + 1)
  | some group =>
    match s.groups[group]?.bind id with
    | none => failBefore .openGroup (name.length + 1)
    | some width =>
      checkLookBehind group
      return .reference width

/-- No pattern has as many groups as this. -/
def groupLimit : Nat := Nat.pow 2 30 - 1

/-- The group a condition refers to, by name or by number. -/
def conditionGroup : PatternReader Nat := do
  let name ← takeName ')' "group name"
  let back := name.length + 1
  if isIdentifier name then
    match (← get).names.lookup name with
    | none => failBefore (.unknownGroup name) back
    | some group => return group
  else
    match readWhole 10 name with
    | .ok (.ofNat group) =>
      if group = 0 then failBefore .badGroupNumber back
      if group ≥ groupLimit then failBefore (.invalidGroup group) back
      modify fun s =>
        if (s.conditions.lookup group).isSome then s
        else { s with conditions := s.conditions ++ [(group, s.position - back)] }
      return group
    | _ => failBefore (.badGroupName name) back

/-- Skips a comment, whose group opened at `start`. -/
def skipComment (start count : Nat) : PatternReader Unit := do
  match ← take?, count with
  | some token, count + 1 => if token = [')'] then return else skipComment start count
  | _, _ => failAt .unclosedComment start

/-- Skips the rest of a line. -/
def skipLine (count : Nat) : PatternReader Unit := do
  match ← take?, count with
  | some token, count + 1 => if token = ['\n'] then return else skipLine count
  | _, _ => return

def isVerboseBlank (c : Char) : Bool := [' ', '\t', '\n', '\r', '\x0b', '\x0c'].contains c

def closeParenthesis (start : Nat) : PatternReader Unit := do
  if !(← accept ')') then failAt .unclosedGroup start

/-- The kinds of group, by what stands after the opening parenthesis. -/
inductive GroupHead where
  | capture (name : Option (List Char))
  | plain
  | flagged (on off : List Char)
  | atomic
  | look (behind : Bool)
  | condition (group : Nat)
  | reference (form : Form)
  | nothing
  | setFlags

/-- Reads the head of an extension group, after its question mark. -/
def groupHead (start : Nat) : PatternReader GroupHead := do
  match ← take? with
  | none => failBefore .patternEnd 0
  | some token =>
    if token = ['P'] then
      if ← accept '<' then
        let name ← takeName '>' "group name"
        checkGroupName name
        return .capture (some name)
      else if ← accept '=' then return .reference (← namedReference)
      else match ← take? with
        | none => failBefore .patternEnd 0
        | some other => failBefore (.unknownExtension ('P' :: other)) (other.length + 2)
    else if token = [':'] then return .plain
    else if token = ['#'] then
      skipComment start (← get).tokens.length
      return .nothing
    else if token = ['='] || token = ['!'] then return .look false
    else if token = ['<'] then
      match ← take? with
      | none => failBefore .patternEnd 0
      | some other =>
        if other = ['='] || other = ['!'] then return .look true
        else failBefore (.unknownExtension ('<' :: other)) (other.length + 2)
    else if token = ['('] then return .condition (← conditionGroup)
    else if token = ['>'] then return .atomic
    else if isFlag token || token = ['-'] then
      match ← inlineFlags token with
      | none => return .setFlags
      | some (on, off) => return .flagged on off
    else failBefore (.unknownExtension token) (token.length + 1)

/-- How deep groups may lie in one another. A condition counts once, for it has no
alternatives of its own, and any other group twice. Patterns have no such limit: that the
stack of their reader is used up just here is an assumption about how the program is run. -/
def depthLimit : Nat := 972

def checkDepth (depth : Nat) : PatternReader Unit := do
  if depth > depthLimit then throw .tooDeep

/-- What to read next: alternatives, or one of them from some items in reverse. -/
inductive PatternGoal where
  | branches (verbose nested : Bool) (done : List (List Form))
  | items (verbose first : Bool) (done : List Form)

/-- Reads alternatives or items up to a closing parenthesis or the end. The items of
one alternative are given back as the only alternative. Every step takes a token
or ends one of the goals, so three steps for a token are enough. -/
def readGoal (fuel depth : Nat) (goal : PatternGoal) : PatternReader (List (List Form)) := do
  match fuel, goal with
  | 0, _ => return []
  | fuel + 1, .branches verbose nested done =>
    checkDepth depth
    let branch ← readGoal fuel depth (.items verbose (!nested && done.isEmpty) [])
    let done := done ++ branch
    if ← accept '|' then
      let inner := (← get).flags.contains 'x'
      readGoal fuel depth (.branches (if nested then verbose else inner) nested done)
    else return done
  | fuel + 1, .items verbose first done =>
    let more (items : List Form) := readGoal fuel depth (.items verbose first items)
    match ← next? with
    | none => return [done.reverse]
    | some ['|'] => return [done.reverse]
    | some [')'] => return [done.reverse]
    | some token =>
      let start := (← get).position
      let _ ← take?
      match token with
      | ['\\', c] => more (Form.ofEscape (← itemEscape c) :: done)
      | [c] =>
        if verbose && isVerboseBlank c then more done
        else if verbose && c = '#' then
          skipLine (← get).tokens.length
          more done
        else if c = '[' then more ((← characterSet start) :: done)
        else if c = '*' || c = '+' || c = '?' || c = '{' then
          match ← repeatBounds c with
          | none => more (.character :: done)
          | some bounds => more (← repeatLast start bounds done)
        else if c = '^' || c = '$' then more (.position :: done)
        else if c = '(' then
          let head ← if ← accept '?' then groupHead start else pure (.capture none)
          match head with
          | .nothing => more done
          | .reference form => more (form :: done)
          | .setFlags =>
            if !first || !done.isEmpty then failAt .lateFlags start
            readGoal fuel depth (.items ((← get).flags.contains 'x') first done)
          | .look behind =>
            let outer := (← get).lookBehind
            if behind then
              modify fun s => { s with lookBehind := s.lookBehind.or (some s.groups.length) }
            let body ← readGoal fuel (depth + 2) (.branches verbose true [])
            if behind then modify fun s => { s with lookBehind := outer }
            closeParenthesis start
            more (.look behind body :: done)
          | .condition group =>
            checkLookBehind group
            checkDepth (depth + 1)
            let whenSet ← readGoal fuel (depth + 1) (.items verbose false [])
            let hasUnset ← accept '|'
            let whenUnset ← if hasUnset then readGoal fuel (depth + 1) (.items verbose false [])
              else pure []
            if hasUnset && (← next?) = some ['|'] then failBefore .tooManyBranches 0
            closeParenthesis start
            more (.choice whenSet.flatten whenUnset.flatten hasUnset :: done)
          | .capture name =>
            let group ← openGroup name
            let body ← readGoal fuel (depth + 2) (.branches verbose true [])
            closeParenthesis start
            closeGroup group (branchesWidth body)
            more (.group body :: done)
          | .plain =>
            let body ← readGoal fuel (depth + 2) (.branches verbose true [])
            closeParenthesis start
            more (.group body :: done)
          | .flagged on off =>
            let inner := (verbose || on.contains 'x') && !off.contains 'x'
            let body ← readGoal fuel (depth + 2) (.branches inner true [])
            closeParenthesis start
            more (.group body :: done)
          | .atomic =>
            let body ← readGoal fuel (depth + 2) (.branches verbose true [])
            closeParenthesis start
            more (.group body :: done)
        else more (.character :: done)
      | _ => more done

/-- Reads a whole pattern and checks what can be checked only at its end. -/
def wholePattern : PatternReader Unit := do
  checkDangling
  let body ← readGoal (3 * (← get).tokens.length + 3) 0 (.branches false false [])
  let s ← get
  if s.flags.contains 'a' && s.flags.contains 'u' then throw .incompatibleFlags
  if !s.tokens.isEmpty then failBefore .unopenedGroup 0
  if let some (group, position) := s.conditions.find? fun c => c.1 ≥ s.groups.length then
    failAt (.invalidGroup group) position
  if let some fault := branchesFault? (s.flags.contains 't') body then throw (.invalid fault none)
  if branchesLookFar body then throw .looksTooFar

end PatternReader

/-- Whether a text is a pattern that can be used, and if not, why. -/
def checkPattern (pattern : String) : Except PatternFailure Unit :=
  let (tokens, dangling) := patternTokens pattern.toList
  let start : PatternState :=
    { tokens, dangling, position := 0, flags := [], groups := [none], names := [],
      lookBehind := none, conditions := [] }
  (PatternReader.wholePattern.run start).map fun _ => ()

end LayeredSettings

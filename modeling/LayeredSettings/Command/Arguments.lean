namespace LayeredSettings

/-- An option of a command, under a long name and perhaps a letter, with a value after
it or without one. -/
structure CommandOption where
  name : String
  letter : Option Char := none
  takesValue : Bool := true
  deriving DecidableEq, Repr

/-- An option that was given, under its long name. -/
structure GivenOption where
  name : String
  value : String := ""
  deriving DecidableEq, Repr

/-- The arguments of a command: its options in the order they were given, and the rest. -/
structure Arguments where
  given : List GivenOption := []
  others : List String := []
  deriving DecidableEq, Repr

namespace Arguments

/-- The values of an option, in the order they were given. -/
def values (arguments : Arguments) (name : String) : List String :=
  (arguments.given.filter (·.name = name)).map GivenOption.value

/-- The value of an option that counts: the last one given. -/
def value? (arguments : Arguments) (name : String) : Option String := (arguments.values name).getLast?

def has (arguments : Arguments) (name : String) : Bool := arguments.given.any (·.name = name)

end Arguments

/-- A long option and the value after its equals sign. -/
def splitValue (s : List Char) : List Char × Option (List Char) :=
  match s.dropWhile (· ≠ '=') with
  | [] => (s, none)
  | _ :: value => (s.takeWhile (· ≠ '='), some value)

/-- The letters of an argument, each an option; what follows one that takes a value is
the value. There is none if a letter is unknown or a value is missing. The answer says
whether the argument after it was needed. -/
def readLetters (options : List CommandOption) (next : Option String) :
    List Char → Option (List GivenOption × Bool)
  | [] => some ([], false)
  | letter :: rest =>
    match options.find? (·.letter = some letter) with
    | none => none
    | some option =>
      if !option.takesValue then
        (readLetters options next rest).map fun r => (⟨option.name, ""⟩ :: r.1, r.2)
      else if !rest.isEmpty then some ([⟨option.name, String.ofList rest⟩], false)
      else next.map fun value => ([⟨option.name, value⟩], true)

/-- The options an argument gives, perhaps with the argument after it as a value. -/
def readOption (options : List CommandOption) (next : Option String) (argument : List Char) :
    Option (List GivenOption × Bool) :=
  let (name, value) := splitValue argument
  match options.find? (·.name.toList = name) with
  | some option =>
    if option.takesValue then
      match value, next with
      | some value, _ => some ([⟨option.name, String.ofList value⟩], false)
      | none, some value => some ([⟨option.name, value⟩], true)
      | none, none => none
    else if value.isSome then none
    else some ([⟨option.name, ""⟩], false)
  | none =>
    match argument with
    | '-' :: '-' :: _ => none
    | _ => readLetters options next (argument.drop 1)

/-- Reads arguments, none if an option is unknown or lacks its value. Options end at two
dashes, and where they may not be mixed with other arguments, at the first of those. -/
def readArguments? (options : List CommandOption) (mixed : Bool) (arguments : List String) :
    Option Arguments :=
  match arguments with
  | [] => some {}
  | argument :: rest =>
    if argument = "--" then some { others := rest }
    else if argument.startsWith "-" && argument ≠ "-" then
      match readOption options rest.head? argument.toList with
      | none => none
      | some (given, needed) =>
        (readArguments? options mixed (rest.drop (if needed then 1 else 0))).map fun read =>
          { read with given := given ++ read.given }
    else if mixed then
      (readArguments? options mixed rest).map fun read => { read with others := argument :: read.others }
    else some { others := argument :: rest }
termination_by arguments.length
decreasing_by all_goals simp only [List.length_drop, List.length_cons]; omega

end LayeredSettings

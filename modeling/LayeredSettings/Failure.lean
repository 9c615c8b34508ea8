import LayeredSettings.Files.Tree
import LayeredSettings.Log.Level
import LayeredSettings.Number.Reading
import LayeredSettings.Pattern.Fault
import LayeredSettings.Store.Layers
import LayeredSettings.Value.Narrow

namespace LayeredSettings

/-- Why a scalar of a document has no value of the kind its tag asks for. -/
inductive ScalarFault where
  | calendar (fault : CalendarFault)
  | noMoment
  | momentOfEntries
  | noWhole (base : Nat) (text : List Char)
  | tooManyDigits (count : Nat)
  | noDouble (text : List Char)
  | emptyNumber
  | noTruthValue (word : List Char)
  | tooLarge
  | codeTooLarge (code : Nat)
  | endlessDefault
  deriving DecidableEq, Repr

/-- The kinds of failure that a caller may raise on its own. -/
inductive RaisedKind where
  | settings
  | value
  | runtime
  deriving DecidableEq, Repr

/-- Everything that can go wrong. -/
inductive Failure where
  | wrongValue (wrong : WrongValue)
  | badPattern (pattern : String) (fault : PatternFault) (position : Option Nat)
  | isDirectory (path : Path)
  | malformed (path : Path)
  | notMapping (path : Path)
  | keyNotText (path : Path) (key : Scalar)
  | raised (kind : RaisedKind) (message : String)
  | scalar (fault : ScalarFault)
  | valueFault (fault : ValueFault)
  | badBytes (fault : DecodeFault)
  | unwritable (fault : EncodeFault)
  | pathTooLong (path : Path)
  | searchDenied (path : Path)
  | linkLoop (path : Path)
  | nullInPath
  | repetitionTooLarge
  | tooManyDigits (count : Nat)
  | incompatibleFlags
  | looksTooFar
  | tooDeep
  | passLimit (limit : Int)
  | unknownSource (tag : String)
  | unknownLayer (name : String)
  | unknownLevel (name : String)
  | baseLevel
  | positionRange (field : String) (value : Int)
  deriving Repr

/-- Whether a failure is one of the settings, which readers of settings expect and
report. -/
def Failure.isOfSettings : Failure → Bool
  | .wrongValue _ | .badPattern .. | .isDirectory _ | .malformed _ | .notMapping _ | .keyNotText .. => true
  | .raised kind _ => kind = .settings
  | _ => false

def CalendarFault.message : CalendarFault → String
  | .year n => s!"year {n} is out of range"
  | .month => "month must be in 1..12"
  | .day => "day is out of range for month"
  | .hour => "hour must be in 0..23"
  | .minute => "minute must be in 0..59"
  | .second => "second must be in 0..59"
  | .offset seconds =>
    "offset must be a timedelta strictly between -timedelta(hours=24) and timedelta(hours=24), not " ++
      spanLiteral seconds ++ "."

def tooManyDigitsMessage (count : Nat) : String :=
  s!"Exceeds the limit ({digitLimit} digits) for integer string conversion: value has {count} " ++
    "digits; use sys.set_int_max_str_digits() to increase the limit"

/-- The text of a fault in reading a scalar. Of a long text that is no whole number only
the beginning is shown. -/
def ScalarFault.message : ScalarFault → String
  | .calendar fault => fault.message
  | .noMoment => "'NoneType' object has no attribute 'groupdict'"
  | .momentOfEntries => "expected string or bytes-like object, got 'list'"
  | .noWhole base text =>
    s!"invalid literal for int() with base {base}: " ++ String.ofList ((quoteChars text).take 200)
  | .tooManyDigits count => tooManyDigitsMessage count
  | .noDouble text => "could not convert string to float: " ++ String.ofList (quoteChars text)
  | .emptyNumber => "string index out of range"
  | .noTruthValue word => String.ofList word
  | .tooLarge => "int too large to convert to float"
  | .codeTooLarge code =>
    if code < Nat.pow 2 31 then "chr() arg not in range(0x110000)"
    else "Python int too large to convert to C int"
  | .endlessDefault => "maximum recursion depth exceeded while calling a Python object"

namespace Failure

def message : Failure → String
  | .wrongValue wrong => wrong.message
  | .badPattern pattern fault position =>
    "Setting 'CMakeLite.override.filterCompilerArgs' is not a valid regular expression: " ++
      quoted pattern ++ ": " ++ fault.message pattern position
  | .isDirectory path =>
    "Error reading settings file '" ++ path.text ++ "': [Errno 21] Is a directory: " ++ quoted path.text
  | .malformed path => "Error parsing YAML in settings file '" ++ path.text ++ "': not well formed"
  | .notMapping path => "Error in settings file '" ++ path.text ++ "': top level must be a mapping"
  | .keyNotText path key =>
    "Error in settings file '" ++ path.text ++ "': keys must be strings, found " ++ key.literal
  | .raised _ message => message
  | .scalar fault => fault.message
  | .valueFault fault => fault.message
  | .badBytes fault => fault.message
  | .unwritable fault => fault.message ++
    "\n*** You may need to add PYTHONIOENCODING=utf-8 to your environment ***"
  | .pathTooLong path => "[Errno 36] File name too long: " ++ quoted path.text
  | .searchDenied path => "[Errno 13] Permission denied: " ++ quoted path.text
  | .linkLoop path => "Symlink loop from " ++ quoted path.text
  | .nullInPath => "embedded null byte"
  | .repetitionTooLarge => "the repetition number is too large"
  | .tooManyDigits count => tooManyDigitsMessage count
  | .incompatibleFlags => "ASCII and UNICODE flags are incompatible"
  | .looksTooFar => "invalid SRE code"
  | .tooDeep => "maximum recursion depth exceeded"
  | .passLimit limit => s!"max_passes must be at least 1, got {limit}"
  | .unknownSource tag => "unknown namespace matched: " ++ quoted tag
  | .unknownLayer name =>
    "Unknown configuration layer '" ++ name ++ "'. Valid layers: " ++
      ", ".intercalate (Layer.all.map Layer.name)
  | .unknownLevel name =>
    "Invalid log level '" ++ name ++ "'. Valid levels: " ++
      ", ".intercalate (LogLevel.all.map LogLevel.name)
  | .baseLevel => "Cannot pop the base log level"
  | .positionRange field value =>
    s!"Position.{field} should be in range [0:2147483647], but was {value}."

def ofPattern (pattern : String) : PatternFailure → Failure
  | .invalid fault position => .badPattern pattern fault position
  | .repetitionTooLarge => .repetitionTooLarge
  | .tooManyDigits count => .tooManyDigits count
  | .incompatibleFlags => .incompatibleFlags
  | .codeTooLarge code => .scalar (.codeTooLarge code)
  | .looksTooFar => .looksTooFar
  | .tooDeep => .tooDeep

def ofNarrow : NarrowFault → Failure
  | .wrong wrong => .wrongValue wrong
  | .value fault => .valueFault fault

end Failure

/-- What has not failed has a result. -/
theorem eq_ok_of_isSome {ε α : Type} (result : Except ε α) (fallback : α) (fine : result.toOption.isSome = true) :
    result = .ok (result.toOption.getD fallback) := by
  cases result with
  | ok value => rfl
  | error failure => cases fine

end LayeredSettings

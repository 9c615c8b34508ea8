import LayeredSettings.Text.Case

namespace LayeredSettings

/-- How severe a message is, the most severe first. -/
inductive LogLevel where
  | fatal
  | error
  | warn
  | info
  | debug
  | trace
  deriving DecidableEq, Repr, Inhabited

namespace LogLevel

def all : List LogLevel := [.fatal, .error, .warn, .info, .debug, .trace]

def name : LogLevel → String
  | .fatal => "fatal"
  | .error => "error"
  | .warn => "warn"
  | .info => "info"
  | .debug => "debug"
  | .trace => "trace"

def upperName (level : LogLevel) : String := String.ofList (uppercase level.name.toList)

def rank : LogLevel → Nat
  | .fatal => 0
  | .error => 1
  | .warn => 2
  | .info => 3
  | .debug => 4
  | .trace => 5

/-- The level of a name in letters of either case. -/
def ofName? (name : String) : Option LogLevel :=
  all.find? fun level => level.upperName.toList = uppercase name.toList

end LogLevel

/-- A message for a logger. Square brackets in it are markup, unless it says that it
is plain. -/
structure LogMessage where
  level : LogLevel
  text : String
  plain : Bool := false
  deriving DecidableEq, Repr

end LayeredSettings

import LayeredSettings.Failure

namespace LayeredSettings

/-- How much is logged: a level that holds in the end, and those put on top of it for a
while, the last one first. -/
structure Verbosity where
  base : LogLevel := .info
  pushed : List LogLevel := []
  deriving DecidableEq, Repr

namespace Verbosity

/-- The level in force. -/
def level (v : Verbosity) : LogLevel := v.pushed.headD v.base

/-- Whether messages of a level are logged: those at least as severe as the level in
force. -/
def allows (v : Verbosity) (level : LogLevel) : Bool := level.rank ≤ v.level.rank

def push (v : Verbosity) (level : LogLevel) : Verbosity := { v with pushed := level :: v.pushed }

/-- Takes the last level away. The one below all others stays. -/
def pop (v : Verbosity) : Except Failure (LogLevel × Verbosity) :=
  match v.pushed with
  | [] => .error .baseLevel
  | level :: rest => .ok (level, { v with pushed := rest })

end Verbosity

/-- A word in front of a message, and how it is drawn. -/
structure LevelTag where
  text : String
  style : String
  deriving DecidableEq, Repr

/-- Warnings and errors are marked as such. -/
def LogLevel.tag? : LogLevel → Option LevelTag
  | .fatal => some ⟨"fatal:", "bold red"⟩
  | .error => some ⟨"error:", "bold red"⟩
  | .warn => some ⟨"warning:", "bold yellow"⟩
  | _ => none

end LayeredSettings

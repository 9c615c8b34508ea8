import LayeredSettings.Value.Limit
import LayeredSettings.Value.Shape

namespace LayeredSettings

/-- What a setting should have been. -/
inductive Expected where
  | text
  | oneOf (choices : List String)
  deriving DecidableEq, Repr

def Expected.phrase : Expected → String
  | .text => "a string"
  | .oneOf choices => "one of " ++ ", ".intercalate (choices.map quoted)

/-- A setting whose value is of no use. -/
structure WrongValue where
  key : String
  expected : Expected
  value : Value
  deriving Repr

def WrongValue.message (w : WrongValue) : String :=
  "Setting '" ++ w.key ++ "' must be " ++ w.expected.phrase ++ ", got " ++ w.value.describe

/-- Why a setting gives no text: its value is of no use, or it is of no use and cannot even
be described. -/
inductive NarrowFault where
  | wrong (w : WrongValue)
  | value (fault : ValueFault)
  deriving Repr

/-- The refusal of a value that is not what was expected. -/
def refused (key : String) (expected : Expected) (v : Value) : NarrowFault :=
  if v.holdsLong then .value .tooLong else .wrong ⟨key, expected, v⟩

/-- A closed set of values that are spelled as texts. -/
class Choice (α : Type) where
  all : List α
  text : α → String

def Choice.ofText? [Choice α] (s : String) : Option α := (Choice.all).find? fun c => Choice.text c = s

namespace Value

/-- The text of a setting, or none if it is absent. -/
def narrowText (key : String) (v : Value) : Except NarrowFault (Option String) :=
  if v.isNull then .ok none
  else match v.text? with
    | some s => .ok (some s)
    | none => .error (refused key .text v)

/-- The choice a setting names, or none if it is absent. -/
def narrowChoice (α : Type) [Choice α] (key : String) (v : Value) : Except NarrowFault (Option α) :=
  match v.narrowText key with
  | .error fault => .error fault
  | .ok none => .ok none
  | .ok (some s) =>
    match Choice.ofText? s with
    | some choice => .ok (some choice)
    | none => .error (refused key (.oneOf ((Choice.all : List α).map Choice.text)) v)

end Value

end LayeredSettings

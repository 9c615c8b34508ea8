import LayeredSettings.Value.Literal

namespace LayeredSettings

/-- What a setting can be used as. -/
inductive Shape where
  | absent
  | text
  | texts
  | other
  deriving DecidableEq, Repr

def Shape.name : Shape → String
  | .absent => "absent"
  | .text => "string"
  | .texts => "list of strings"
  | .other => "other"

namespace Value

/-- The texts of a list or tuple that holds nothing else. -/
def texts? : Value → Option (List String)
  | .list items => items.mapM text?
  | .tuple items => items.mapM text?
  | _ => none

def shape (v : Value) : Shape :=
  if v.isNull then .absent
  else if v.text?.isSome then .text
  else if v.texts?.isSome then .texts
  else .other

/-- The value for a reader of an error: its shape, or where that says nothing its
kind, and its literal text. -/
def describe (v : Value) : String :=
  (match v.shape with
    | .other => v.kindName
    | shape => shape.name) ++ " " ++ v.literal

end Value

end LayeredSettings

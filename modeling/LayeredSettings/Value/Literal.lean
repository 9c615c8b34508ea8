import LayeredSettings.Text.Quoted
import LayeredSettings.Value.SetOrder

namespace LayeredSettings

/-- A span of seconds as whole days, which may be negative, and the seconds left
over, written without the parts that are zero. -/
def spanLiteral (seconds : Int) : String :=
  let days := seconds / 86400
  let rest := seconds % 86400
  let parts := (if days = 0 then [] else ["days=" ++ toString days]) ++
    (if rest = 0 then [] else ["seconds=" ++ toString rest])
  "datetime.timedelta(" ++ (if parts.isEmpty then "0" else ", ".intercalate parts) ++ ")"

def zoneLiteral (offset : Int) : String :=
  if offset = 0 then "datetime.timezone.utc"
  else "datetime.timezone(" ++ spanLiteral offset ++ ")"

def Date.literal (d : Date) : String :=
  s!"datetime.date({d.year}, {d.month}, {d.day})"

/-- Seconds and microseconds are left out where nothing but zeros would follow. -/
def DateTime.literal (t : DateTime) : String :=
  let clock := [t.date.year, t.date.month, t.date.day, t.hour, t.minute] ++
    (if t.microsecond ≠ 0 then [t.second, t.microsecond]
      else if t.second ≠ 0 then [t.second] else [])
  "datetime.datetime(" ++ ", ".intercalate (clock.map toString) ++
    (t.offset.map fun o => ", tzinfo=" ++ zoneLiteral o).getD "" ++ ")"

namespace Scalar

/-- The text a reader would write for the scalar: texts quoted, moments spelled
out. -/
def literal : Scalar → String
  | .null => "None"
  | .bool b => if b then "True" else "False"
  | .int n => toString n
  | .float x => x.text
  | .text s => quoted s
  | .bytes b => quotedBytes b
  | .date d => d.literal
  | .dateTime t => t.literal

/-- The scalar as part of a dotted key: a text stands for itself, and days and
moments are written in digits. -/
def keyText : Scalar → String
  | .text s => s
  | .date d => d.text
  | .dateTime t => t.text " "
  | s => s.literal

def kindName : Scalar → String
  | .null => "NoneType"
  | .bool _ => "bool"
  | .int _ => "int"
  | .float _ => "float"
  | .text _ => "str"
  | .bytes _ => "bytes"
  | .date _ => "date"
  | .dateTime _ => "datetime"

end Scalar

namespace Value

mutual

/-- The text a reader would write for the value. A tuple of one part keeps its
comma, and the empty set is spelled as a call. Inside itself a collection shows
as its brackets with three dots. -/
def literal : Value → String
  | .scalar s => s.literal
  | .list items => "[" ++ ", ".intercalate (literals items) ++ "]"
  | .tuple [item] => "(" ++ literal item ++ ",)"
  | .tuple items => "(" ++ ", ".intercalate (literals items) ++ ")"
  | .map entries => "\x7b" ++ ", ".intercalate (entryLiterals entries) ++ "\x7d"
  | .set [] => "set()"
  | .set items => "\x7b" ++ ", ".intercalate ((setOrder items).map Scalar.literal) ++ "\x7d"
  | .enclosing e => if e.mapping then "\x7b...\x7d" else "[...]"

def literals : List Value → List String
  | [] => []
  | v :: rest => literal v :: literals rest

def entryLiterals : List (Scalar × Value) → List String
  | [] => []
  | (k, v) :: rest => (k.literal ++ ": " ++ literal v) :: entryLiterals rest

end

/-- The word for the kind of value. -/
def kindName : Value → String
  | .scalar s => s.kindName
  | .list _ => "list"
  | .tuple _ => "tuple"
  | .map _ => "dict"
  | .set _ => "set"
  | .enclosing e => if e.mapping then "dict" else "list"

end Value

end LayeredSettings

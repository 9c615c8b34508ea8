import LayeredSettings.Yaml.Moment
import LayeredSettings.Yaml.Property

namespace LayeredSettings.Yaml

/-- What a node is to be read as. -/
inductive Tag where
  | null
  | bool
  | int
  | float
  | bytes
  | moment
  | orderedMap
  | pairs
  | set
  | text
  | list
  | map
  | merge
  | default
  | unknown
  deriving DecidableEq, Repr

/-- The names of the tags of the common schema. -/
def Tag.ofName (name : List Char) : Tag :=
  let known := [("null", Tag.null), ("bool", .bool), ("int", .int), ("float", .float),
    ("binary", .bytes), ("timestamp", .moment), ("omap", .orderedMap), ("pairs", .pairs),
    ("set", .set), ("str", .text), ("seq", .list), ("map", .map), ("merge", .merge),
    ("value", .default)]
  match known.find? fun entry => "tag:yaml.org,2002:".toList ++ entry.1.toList = name with
  | some entry => entry.2
  | none => .unknown

def dropSign : List Char → List Char
  | '+' :: rest => rest
  | '-' :: rest => rest
  | s => s

def isDigits (s : List Char) : Bool := !s.isEmpty && s.all Char.isDigit

def isSpaced (digit : Char → Bool) (c : Char) : Bool := digit c || c == '_'

/-- The parts after the first colon of a number in base sixty: one or two digits each,
less than sixty. -/
def isSixties : List Char → Bool
  | [a] => a.isDigit
  | [a, b] => '0' ≤ a && a ≤ '5' && b.isDigit
  | a :: ':' :: rest => a.isDigit && isSixties rest
  | a :: b :: ':' :: rest => '0' ≤ a && a ≤ '5' && b.isDigit && isSixties rest
  | _ => false

/-- A whole number: in base two, eight or sixteen after a zero, in base ten or sixty
otherwise, with underscores between digits. -/
def looksWhole (s : List Char) : Bool :=
  match dropSign s with
  | ['0'] => true
  | '0' :: 'b' :: rest => !rest.isEmpty && rest.all (isSpaced fun c => c == '0' || c == '1')
  | '0' :: 'x' :: rest => !rest.isEmpty && rest.all (isSpaced fun c => (digitValue? 16 c).isSome)
  | '0' :: rest => rest.all (isSpaced fun c => '0' ≤ c && c ≤ '7')
  | c :: rest =>
    c.isDigit &&
      match rest.dropWhile (isSpaced Char.isDigit) with
      | [] => true
      | ':' :: sixties => isSixties sixties
      | _ => false
  | [] => false

/-- An exponent at the end of a number: it has a sign. -/
def looksExponent : List Char → Bool
  | [] => true
  | e :: sign :: digits => (e == 'e' || e == 'E') && (sign == '+' || sign == '-') && isDigits digits
  | _ => false

/-- A number with a point, a word for an infinity, or for not a number. -/
def looksFloat (s : List Char) : Bool :=
  let body := dropSign s
  let words (spelled : List String) (s : List Char) : Bool := spelled.any fun w => w.toList = s
  match body with
  | '.' :: rest =>
    words ["inf", "Inf", "INF"] rest ||
      (body = s && (words ["nan", "NaN", "NAN"] rest ||
        (rest.head?.any Char.isDigit && looksExponent (rest.dropWhile (isSpaced Char.isDigit)))))
  | c :: rest =>
    c.isDigit &&
      match rest.dropWhile (isSpaced Char.isDigit) with
      | '.' :: fraction => looksExponent (fraction.dropWhile (isSpaced Char.isDigit))
      | ':' :: rest =>
        match rest.dropWhile (· ≠ '.') with
        | '.' :: fraction =>
          isSixties (rest.takeWhile (· ≠ '.')) && fraction.all (isSpaced Char.isDigit)
        | _ => false
      | _ => false
  | [] => false

def truthWords : List String :=
  ["yes", "Yes", "YES", "no", "No", "NO", "true", "True", "TRUE", "false", "False", "FALSE", "on",
    "On", "ON", "off", "Off", "OFF"]

/-- A text without the line feed at its end, if it has one. -/
def dropLineFeed (s : List Char) : List Char := if s.getLast? = some '\n' then s.dropLast else s

/-- What a scalar without quotes is read as, by the look of its text. A line feed at
its end does not count. -/
def Tag.ofLook (text : List Char) : Tag :=
  let s := dropLineFeed text
  let among (words : List String) : Bool := words.any fun w => w.toList = s
  if text.isEmpty || among ["~", "null", "Null", "NULL"] then .null
  else if among truthWords then .bool
  else if looksFloat s then .float
  else if looksWhole s then .int
  else if looksMoment s then .moment
  else if among ["<<"] then .merge
  else if among ["="] then .default
  else if among ["!", "&", "*"] then .unknown
  else .text

end LayeredSettings.Yaml

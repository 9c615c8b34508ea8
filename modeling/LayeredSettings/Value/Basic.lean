import LayeredSettings.Value.Calendar

namespace LayeredSettings

/-- A value without parts. Only these are keys of mappings. -/
inductive Scalar where
  | null
  | bool (b : Bool)
  | int (n : Int)
  | float (x : Double)
  | text (s : String)
  | bytes (b : List UInt8)
  | date (d : Date)
  | dateTime (t : DateTime)
  deriving DecidableEq, Repr, Inhabited

/-- A collection that lies in itself, seen from inside: how many collections further out
than the innermost one it begins, whether it is a mapping, and which reading of a file
it is from. -/
structure Enclosing where
  level : Nat
  mapping : Bool
  reading : Nat
  deriving DecidableEq, Repr, Inhabited

/-- A value as a settings file or a program may hold it. Mappings keep the order
of their entries. Where a collection lies in itself, it is written out once and
referred to as enclosing there. -/
inductive Value where
  | scalar (s : Scalar)
  | list (items : List Value)
  | tuple (items : List Value)
  | map (entries : List (Scalar × Value))
  | set (items : List Scalar)
  | enclosing (e : Enclosing)
  deriving Repr, Inhabited

namespace Value

@[match_pattern] abbrev null : Value := .scalar .null

@[match_pattern] abbrev text (s : String) : Value := .scalar (.text s)

def isNull : Value → Bool
  | null => true
  | _ => false

def text? : Value → Option String
  | text s => some s
  | _ => none

end Value

namespace Scalar

/-- Whole numbers and truth values as integers. -/
def whole? : Scalar → Option Int
  | .bool b => some (if b then 1 else 0)
  | .int n => some n
  | _ => none

/-- Scalars are compared by meaning: a truth value is the number one or zero, and
a whole number equals the floating-point number of its size. -/
def equal : Scalar → Scalar → Bool
  | .null, .null => true
  | .text s, .text t => s == t
  | .bytes a, .bytes b => a == b
  | .date d, .date e => d == e
  | .dateTime t, .dateTime u => t.equal u
  | .float x, .float y => x.equal y
  | .float x, s => (whole? s).any x.equalsInt
  | s, .float y => (whole? s).any y.equalsInt
  | s, t => match whole? s, whole? t with
    | some m, some n => m == n
    | _, _ => false

/-- Equality of parts: the same not-a-number is the same part. -/
def same : Scalar → Scalar → Bool
  | .float (.nan o), .float (.nan p) => o == p
  | s, t => s.equal t

end Scalar

namespace Value

mutual

/-- Equality of parts. Lists are equal to lists and tuples to tuples, part by
part; mappings and sets are compared without regard to order. A collection that
lies in itself is equal only to itself. -/
def same : Value → Value → Bool
  | .scalar s, .scalar t => s.same t
  | .list xs, .list ys => sameItems xs ys
  | .tuple xs, .tuple ys => sameItems xs ys
  | .map xs, .map ys => xs.length == ys.length && sameEntries xs ys
  | .set xs, .set ys => xs.length == ys.length && xs.all fun x => ys.any x.same
  | .enclosing e, .enclosing f => e == f
  | _, _ => false

def sameItems : List Value → List Value → Bool
  | [], [] => true
  | x :: xs, y :: ys => same x y && sameItems xs ys
  | _, _ => false

/-- Whether every entry of the first mapping has its equal in the second. -/
def sameEntries : List (Scalar × Value) → List (Scalar × Value) → Bool
  | [], _ => true
  | (k, v) :: rest, ys =>
    (match ys.find? fun entry => k.same entry.1 with
      | some entry => same v entry.2
      | none => false) && sameEntries rest ys

end

/-- Equality of values: unlike inside a list, not a number is not even equal to
itself. -/
def equal : Value → Value → Bool
  | .scalar s, .scalar t => s.equal t
  | v, w => v.same w

end Value

end LayeredSettings

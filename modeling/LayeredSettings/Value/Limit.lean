import LayeredSettings.Number.Reading
import LayeredSettings.Value.Basic

namespace LayeredSettings

/-- What cannot be done with a value, though nothing is wrong with it: a whole number in
it has too many digits to be written, or it lies in itself, so that going through it
would never end. -/
inductive ValueFault where
  | tooLong
  | endless
  deriving DecidableEq, Repr

def ValueFault.message : ValueFault → String
  | .tooLong => s!"Exceeds the limit ({digitLimit} digits) for integer string conversion; " ++
    "use sys.set_int_max_str_digits() to increase the limit"
  | .endless => "maximum recursion depth exceeded in comparison"

namespace Scalar

/-- Whether a scalar is a whole number too long to be written. -/
def isLong : Scalar → Bool
  | .int n => n.natAbs ≥ Nat.pow 10 digitLimit
  | _ => false

end Scalar

namespace Value

mutual

/-- Whether a value holds a whole number too long to be written. Nothing else keeps a value
from being shown, which takes for granted that it is not nested too deep for the stack. -/
def holdsLong : Value → Bool
  | .scalar s => s.isLong
  | .list items => anyHoldsLong items
  | .tuple items => anyHoldsLong items
  | .map entries => entriesHoldLong entries
  | .set items => items.any Scalar.isLong
  | .enclosing _ => false

def anyHoldsLong : List Value → Bool
  | [] => false
  | v :: rest => holdsLong v || anyHoldsLong rest

def entriesHoldLong : List (Scalar × Value) → Bool
  | [] => false
  | (k, v) :: rest => k.isLong || holdsLong v || entriesHoldLong rest

end

mutual

/-- The number of values in a value, itself included. -/
def size : Value → Nat
  | .list items => sizes items + 1
  | .tuple items => sizes items + 1
  | .map entries => entrySizes entries + 1
  | .scalar _ | .set _ | .enclosing _ => 1

def sizes : List Value → Nat
  | [] => 0
  | v :: rest => size v + sizes rest

def entrySizes : List (Scalar × Value) → Nat
  | [] => 0
  | (_, v) :: rest => size v + entrySizes rest

end

end Value

end LayeredSettings

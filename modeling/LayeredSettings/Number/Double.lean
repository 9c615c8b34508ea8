namespace LayeredSettings

/-- Where a not-a-number value was made. Two such values are never equal, yet a
sequence holding the very same one twice is equal to itself, so each carries
the place it came from: the constant of the file format, or the place at which
one reading made a new one. -/
inductive NanOrigin where
  | shared
  | fresh (reading place : Nat)
  deriving DecidableEq, Repr, Inhabited

/-- A double-precision number as its exact value: `significand * 2 ^ exponent`
with a sign, an infinity, or not a number. Every number has one spelling, the
one with the largest significand below `2 ^ 53`, or the exponent `-1074`. -/
inductive Double where
  | finite (negative : Bool) (significand : Nat) (exponent : Int)
  | infinite (negative : Bool)
  | nan (origin : NanOrigin)
  deriving DecidableEq, Repr, Inhabited

namespace Double

def zero : Double := .finite false 0 (-1074)

/-- Number of binary digits of a natural number, none for zero. -/
def bitLength (n : Nat) : Nat := if n = 0 then 0 else n.log2 + 1

/-- The quotient `(numerator * 2 ^ shift) / denominator` for a shift of either
sign, as a natural quotient, a remainder and the divisor the remainder is of. -/
def scaledQuotient (numerator denominator : Nat) (shift : Int) : Nat × Nat × Nat :=
  let scaled := numerator * Nat.pow 2 shift.toNat
  let divisor := denominator * Nat.pow 2 (-shift).toNat
  (scaled / divisor, scaled % divisor, divisor)

/-- The nearest whole number to `quotient + remainder / divisor`, a half going
to the even one. -/
def roundHalfEven (quotient remainder divisor : Nat) : Nat :=
  if 2 * remainder > divisor || (2 * remainder == divisor && quotient % 2 == 1) then
    quotient + 1
  else quotient

/-- The double nearest to a positive ratio, a half going to the even
significand. Ratios from the midpoint above the largest double on give an
infinity. -/
def ofRatio (negative : Bool) (numerator denominator : Nat) : Double :=
  if numerator = 0 then .finite negative 0 (-1074)
  else
    let guess : Int := max (-1074) ((bitLength numerator : Int) - bitLength denominator - 53)
    let (quotient, _, _) := scaledQuotient numerator denominator (-guess)
    let exponent := if quotient ≥ Nat.pow 2 53 then guess + 1 else guess
    let (quotient, remainder, divisor) := scaledQuotient numerator denominator (-exponent)
    let rounded := roundHalfEven quotient remainder divisor
    let (significand, exponent) :=
      if rounded ≥ Nat.pow 2 53 then (Nat.pow 2 52, exponent + 1) else (rounded, exponent)
    if exponent > 971 then .infinite negative else .finite negative significand exponent

/-- The double nearest to `coefficient * 10 ^ power`. A power far beyond the
range of doubles is settled without computing it. -/
def ofDecimal (negative : Bool) (coefficient : Nat) (power : Int) : Double :=
  let digits : Int := (Nat.toDigits 10 coefficient).length
  if coefficient = 0 || digits + power < -400 then .finite negative 0 (-1074)
  else if digits + power > 400 then .infinite negative
  else ofRatio negative (coefficient * Nat.pow 10 power.toNat) (Nat.pow 10 (-power).toNat)

/-- The double nearest to a whole number, unless it is too large for one. -/
def ofInt? (n : Int) : Option Double :=
  match ofRatio (n < 0) n.natAbs 1 with
  | .infinite _ => none
  | x => some x

/-- The sum of two dyadic numbers with signs, as a signed numerator over a power
of two. -/
def addExact (m n : Int) (e f : Int) : Int × Int :=
  let low := min e f
  (m * Nat.pow 2 (e - low).toNat + n * Nat.pow 2 (f - low).toNat, low)

def signed (negative : Bool) (m : Nat) : Int := if negative then -m else m

/-- The double nearest to `m * 2 ^ e`, a zero taking the given sign. -/
def ofDyadic (zeroNegative : Bool) (m e : Int) : Double :=
  if m = 0 then .finite zeroNegative 0 (-1074)
  else ofRatio (m < 0) (m.natAbs * Nat.pow 2 e.toNat) (Nat.pow 2 (-e).toNat)

/-- Correctly rounded sum. An infinity wins over finite numbers; infinities of
both signs give not a number, of the given origin. -/
def add (origin : NanOrigin) : Double → Double → Double
  | .nan o, _ => .nan o
  | _, .nan o => .nan o
  | .infinite s, .infinite t => if s = t then .infinite s else .nan origin
  | .infinite s, _ => .infinite s
  | _, .infinite t => .infinite t
  | .finite s m e, .finite t n f =>
    let (sum, low) := addExact (signed s m) (signed t n) e f
    ofDyadic (s && t) sum low

/-- Correctly rounded product. Zero times an infinity is not a number, of the
given origin. -/
def mul (origin : NanOrigin) : Double → Double → Double
  | .nan o, _ => .nan o
  | _, .nan o => .nan o
  | .infinite s, .infinite t => .infinite (s != t)
  | .infinite s, .finite t n _ => if n = 0 then .nan origin else .infinite (s != t)
  | .finite s m _, .infinite t => if m = 0 then .nan origin else .infinite (s != t)
  | .finite s m e, .finite t n f => ofDyadic (s != t) (signed (s != t) (m * n)) (e + f)

def neg : Double → Double
  | .finite s m e => .finite (!s) m e
  | .infinite s => .infinite (!s)
  | .nan o => .nan o

/-- Numeric equality: numbers are compared by their exact values, so both zeros are
equal, and nothing equals not a number. -/
def equal : Double → Double → Bool
  | .finite s m e, .finite t n f =>
    signed s m * Nat.pow 2 (e - f).toNat == signed t n * Nat.pow 2 (f - e).toNat
  | .infinite s, .infinite t => s == t
  | _, _ => false

/-- Whether the number is exactly the whole number `n`. -/
def equalsInt : Double → Int → Bool
  | .finite s m e, n => signed s m * Nat.pow 2 e.toNat == n * Nat.pow 2 (-e).toNat
  | _, _ => false

end Double

end LayeredSettings

import LayeredSettings.Number.Double

namespace LayeredSettings

namespace Double

/-- Decimal digits of a positive number: the whole number they spell times a
power of ten. -/
structure Digits where
  coefficient : Nat
  power : Int
  deriving DecidableEq, Repr

/-- The power of ten of the first digit of a positive ratio. -/
def leadingPower (numerator denominator : Nat) : Int :=
  if numerator ≥ denominator then
    ((Nat.toDigits 10 (numerator / denominator)).length : Int) - 1
  else
    let places := (Nat.toDigits 10 (denominator / numerator)).length
    if numerator * Nat.pow 10 (places - 1) ≥ denominator then -((places : Int) - 1) else -places

/-- The numbers that round to one positive double, all over one denominator:
the double itself and the two midpoints to its neighbours. The midpoints belong
to it exactly when its significand is even. -/
structure RoundingRange where
  low : Nat
  value : Nat
  high : Nat
  denominator : Nat
  closed : Bool

/-- The gap below a power of two is half the gap above it. -/
def roundingRange (significand : Nat) (exponent : Int) : RoundingRange :=
  let below := if significand = Nat.pow 2 52 ∧ exponent > -1074 then 1 else 2
  let scale := Nat.pow 2 (exponent - 2).toNat
  { low := (4 * significand - below) * scale
    value := 4 * significand * scale
    high := (4 * significand + 2) * scale
    denominator := Nat.pow 2 (2 - exponent).toNat
    closed := significand % 2 == 0 }

/-- Whether `coefficient * 10 ^ power` rounds to the double of the range. -/
def RoundingRange.contains (range : RoundingRange) (coefficient : Nat) (power : Int) : Bool :=
  let point := coefficient * Nat.pow 10 power.toNat * range.denominator
  let low := range.low * Nat.pow 10 (-power).toNat
  let high := range.high * Nat.pow 10 (-power).toNat
  if range.closed then low ≤ point && point ≤ high else low < point && point < high

/-- The one of the two neighbours of the value on the grid of the given power
that rounds to the double, the nearer one where both do, an even one where they
are equally near. -/
def RoundingRange.onGrid? (range : RoundingRange) (power : Int) : Option Nat :=
  let numerator := range.value * Nat.pow 10 (-power).toNat
  let denominator := range.denominator * Nat.pow 10 power.toNat
  let down := numerator / denominator
  let nearest := roundHalfEven down (numerator % denominator) denominator
  match range.contains down power, range.contains (down + 1) power with
  | true, true => some nearest
  | true, false => some down
  | false, true => some (down + 1)
  | false, false => none

/-- Takes trailing zeros from the coefficient into the power. -/
def Digits.trim : Nat → Digits → Digits
  | 0, d => d
  | fuel + 1, d =>
    if d.coefficient ≠ 0 ∧ d.coefficient % 10 = 0 then
      trim fuel ⟨d.coefficient / 10, d.power + 1⟩
    else d

/-- The fewest decimal digits that read back as the given positive double: the
first grid from coarse to fine that has a point in its rounding range. Seventeen
digits always suffice. -/
def shortest (significand : Nat) (exponent : Int) : Digits :=
  let range := roundingRange significand exponent
  let leading := leadingPower range.value range.denominator
  let found := (List.range 17).findSome? fun (places : Nat) =>
    let power := leading - (places : Int)
    (range.onGrid? power).map fun coefficient => Digits.trim 20 ⟨coefficient, power⟩
  found.getD ⟨significand, 0⟩

/-- How a double is laid out as text. Numbers whose first digit stands at a power
of ten from `lowest` to below `highest` are written positionally. -/
structure Layout where
  lowest : Int
  highest : Int
  exponentDigits : Nat
  infinity : String
  notANumber : String

/-- Positional from `1e-04` to below `1e+16`, a point and a zero after whole
numbers, and an exponent with its sign and at least two digits. -/
def plainLayout : Layout := ⟨-4, 16, 2, "inf", "nan"⟩

/-- A whole number with zeros in front of it up to a least width. -/
def padded (width n : Nat) : String :=
  let digits := toString n
  "".pushn '0' (width - digits.length) ++ digits

def Digits.positional (d : Digits) (leading : Int) : String :=
  let digits := toString d.coefficient
  if d.power ≥ 0 then digits ++ "".pushn '0' d.power.toNat ++ ".0"
  else if leading ≥ 0 then
    let whole := leading.toNat + 1
    String.ofList (digits.toList.take whole) ++ "." ++ String.ofList (digits.toList.drop whole)
  else "0." ++ "".pushn '0' (-leading - 1).toNat ++ digits

def Digits.scientific (layout : Layout) (d : Digits) (leading : Int) : String :=
  let digits := (toString d.coefficient).toList
  let mantissa := match digits with
    | first :: second :: rest => String.ofList (first :: '.' :: second :: rest)
    | short => String.ofList short
  mantissa ++ "e" ++ (if leading < 0 then "-" else "+") ++ padded layout.exponentDigits leading.natAbs

/-- The text of a double: the fewest digits that read back, laid out. -/
def render (layout : Layout) : Double → String
  | .nan _ => layout.notANumber
  | .infinite negative => (if negative then "-" else "") ++ layout.infinity
  | .finite negative significand exponent =>
    let sign := if negative then "-" else ""
    if significand = 0 then sign ++ "0.0"
    else
      let d := shortest significand exponent
      let leading := ((toString d.coefficient).length : Int) - 1 + d.power
      if layout.lowest ≤ leading ∧ leading < layout.highest then sign ++ d.positional leading
      else sign ++ d.scientific layout leading

def text (x : Double) : String := x.render plainLayout

end Double

end LayeredSettings

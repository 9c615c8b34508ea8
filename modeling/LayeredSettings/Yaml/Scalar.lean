import LayeredSettings.Text.Case
import LayeredSettings.Text.Split
import LayeredSettings.Yaml.Fault
import LayeredSettings.Yaml.Tag

namespace LayeredSettings.Yaml

abbrev ScalarReading (α : Type) := Except ScalarFault α

/-- A number without its underscores, and whether it has a minus in front of it. -/
def bareNumber (s : List Char) : ScalarReading (Bool × List Char) :=
  let s := s.filter (· ≠ '_')
  if s.isEmpty then .error .emptyNumber else .ok (s.head? = some '-', dropSign s)

def wholeOf (base : Nat) (s : List Char) : ScalarReading Int :=
  match readWhole base s with
  | .ok n => .ok n
  | .error .notANumber => .error (.noWhole base s)
  | .error (.tooManyDigits count) => .error (.tooManyDigits count)

def doubleOf (origin : NanOrigin) (s : List Char) : ScalarReading Double :=
  match readDouble? origin s with
  | some x => .ok x
  | none => .error (.noDouble s)

/-- A whole number: a mark after a zero in front tells base two and sixteen, a zero
alone base eight, and colons base sixty. -/
def readInt (s : List Char) : ScalarReading Int := do
  let (negative, s) ← bareNumber s
  let n ← match s with
    | ['0'] => pure 0
    | '0' :: 'b' :: digits => wholeOf 2 digits
    | '0' :: 'x' :: digits => wholeOf 16 digits
    | '0' :: _ => wholeOf 8 s
    | [] => throw .emptyNumber
    | _ =>
      if s.contains ':' then
        ((splitAt ':' s).mapM (wholeOf 10)).map fun parts =>
          parts.foldl (fun n part => n * 60 + part) 0
      else wholeOf 10 s
  return if negative then -n else n

/-- The sum of parts in base sixty, the last part first. -/
def sumSixties (origin : NanOrigin) (base : Nat) (sum : Double) :
    List Double → ScalarReading Double
  | [] => .ok sum
  | part :: rest =>
    match Double.ofInt? base with
    | none => .error .tooLarge
    | some weight =>
      sumSixties origin (base * 60) (sum.add origin (part.mul origin weight)) rest

/-- A floating-point number: a word for an infinity or for not a number, or decimal
digits, in parts of base sixty between colons. -/
def readFloat (origin : NanOrigin) (s : List Char) : ScalarReading Double := do
  let (negative, s) ← bareNumber (lowercase s)
  if s = ".nan".toList then return .nan .shared
  let x ← if s = ".inf".toList then pure (.infinite false)
    else if s.contains ':' then do
      let parts ← (splitAt ':' s).mapM (doubleOf origin)
      sumSixties origin 1 .zero parts.reverse
    else doubleOf origin s
  return if negative then x.neg else x

def readTruth (s : List Char) : ScalarReading Bool :=
  let word := lowercase s
  if ["yes", "true", "on"].any fun w => w.toList = word then .ok true
  else if ["no", "false", "off"].any fun w => w.toList = word then .ok false
  else .error (.noTruthValue word)

/-- A day, or a moment if there is a clock. -/
def readMoment (s : List Char) : ScalarReading Scalar :=
  match writtenMoment? (dropLineFeed s) with
  | none => .error .noMoment
  | some w =>
    let checked : Except CalendarFault Scalar := do
      match w.clock with
      | none => return .date (← Date.check w.year w.month w.day)
      | some (hour, minute, second, fraction, zone) =>
        let zone ← zone.mapM DateTime.checkOffset
        return .dateTime (← DateTime.check w.year w.month w.day hour minute second
          (microseconds fraction) zone)
    checked.mapError .calendar

/-- The six bits a character of the alphabet of bytes stands for. -/
def sixBits? (c : Char) : Option Nat :=
  if 'A' ≤ c && c ≤ 'Z' then some (c.toNat - 65)
  else if 'a' ≤ c && c ≤ 'z' then some (c.toNat - 71)
  else if '0' ≤ c && c ≤ '9' then some (c.toNat + 4)
  else if c = '+' then some 62
  else if c = '/' then some 63
  else none

/-- The bytes that groups of four characters spell. `place` characters of the present
group were read, of which the last bits are left over, and then `pads` marks that
fill a group. What is not of the alphabet is left out. -/
def bytesFrom (place left pads : Nat) : List Char → Option (List UInt8)
  | [] => if place = 0 then some [] else none
  | c :: rest =>
    if c = '=' then
      if 2 ≤ place ∧ 4 ≤ place + pads + 1 then some []
      else bytesFrom place left (if 2 ≤ place then pads + 1 else pads) rest
    else match sixBits? c with
      | none => bytesFrom place left pads rest
      | some n =>
        match place with
        | 0 => bytesFrom 1 n 0 rest
        | 1 => (bytesFrom 2 (n % 16) 0 rest).map (UInt8.ofNat (left * 4 + n / 16) :: ·)
        | 2 => (bytesFrom 3 (n % 4) 0 rest).map (UInt8.ofNat (left * 16 + n / 4) :: ·)
        | _ => (bytesFrom 0 0 0 rest).map (UInt8.ofNat (left * 64 + n) :: ·)

/-- Bytes as text: only characters of the common set may stand there. -/
def readBytes? (s : List Char) : Option (List UInt8) :=
  if s.all fun c => c.toNat < 128 then bytesFrom 0 0 0 s else none

/-- The value of a scalar of a tag. Tags of collections have none. -/
def scalarValue (origin : NanOrigin) (tag : Tag) (s : List Char) : Except YamlFault Scalar :=
  match tag with
  | .null => .ok .null
  | .text => .ok (.text (String.ofList s))
  | .bool => ((readTruth s).map Scalar.bool).mapError .scalar
  | .int => ((readInt s).map Scalar.int).mapError .scalar
  | .float => ((readFloat origin s).map Scalar.float).mapError .scalar
  | .moment => (readMoment s).mapError .scalar
  | .bytes => match readBytes? s with
    | some bytes => .ok (.bytes bytes)
    | none => .error .malformed
  | _ => .error .malformed

end LayeredSettings.Yaml

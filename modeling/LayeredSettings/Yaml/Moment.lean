import LayeredSettings.Number.Reading
import LayeredSettings.Value.Calendar

namespace LayeredSettings.Yaml

/-- A day as it is written, with a clock where there is one: hour, minute, second, the
digits of a fraction and the distance from universal time in seconds. -/
structure WrittenMoment where
  year : Nat
  month : Nat
  day : Nat
  wide : Bool
  clock : Option (Nat × Nat × Nat × List Char × Option Int)

/-- As many digits as asked for. -/
def takeNumber? (count : Nat) (s : List Char) : Option (Nat × List Char) :=
  let digits := s.take count
  if digits.length = count ∧ digits.all Char.isDigit then
    some (numberOf 10 (digits.map fun c => c.toNat - 48), s.drop count)
  else none

/-- Two digits or one. -/
def takeShort? (s : List Char) : Option (Nat × List Char) :=
  (takeNumber? 2 s).or (takeNumber? 1 s)

def takeMark? (c : Char) (s : List Char) : Option (List Char) :=
  if s.head? = some c then some (s.drop 1) else none

def isTabOrSpace (c : Char) : Bool := c == ' ' || c == '\t'

/-- A zone to the end of a text: universal time, or a sign with hours and minutes. -/
def takeZone? (s : List Char) : Option Int :=
  match s with
  | ['Z'] => some 0
  | sign :: rest =>
    if sign = '+' ∨ sign = '-' then do
      let (hours, rest) ← takeShort? rest
      let (minutes, rest) ← if rest.isEmpty then some (0, []) else
        (takeMark? ':' rest).bind (takeNumber? 2)
      if rest.isEmpty then some (Double.signed (sign == '-') (hours * 3600 + minutes * 60)) else none
    else none
  | [] => none

/-- A clock to the end of a text, after the mark that sets it off from the day. -/
def takeClock? (s : List Char) : Option (Nat × Nat × Nat × List Char × Option Int) := do
  let (hour, rest) ← takeShort? s
  let (minute, rest) ← (takeMark? ':' rest).bind (takeNumber? 2)
  let (second, rest) ← (takeMark? ':' rest).bind (takeNumber? 2)
  let (fraction, rest) := match takeMark? '.' rest with
    | some digits => (digits.takeWhile Char.isDigit, digits.dropWhile Char.isDigit)
    | none => ([], rest)
  if rest.isEmpty then some (hour, minute, second, fraction, none)
  else (takeZone? (rest.dropWhile isTabOrSpace)).map fun zone =>
    (hour, minute, second, fraction, some zone)

/-- Reads a day with or without a clock. -/
def writtenMoment? (s : List Char) : Option WrittenMoment := do
  let (year, rest) ← takeNumber? 4 s
  let afterYear ← takeMark? '-' rest
  let (month, rest) ← takeShort? afterYear
  let afterMonth ← takeMark? '-' rest
  let (day, rest) ← takeShort? afterMonth
  let wide := (takeNumber? 2 afterYear).isSome && (takeNumber? 2 afterMonth).isSome
  match rest with
  | [] => some ⟨year, month, day, wide, none⟩
  | c :: clock =>
    let clock ← if c = 'T' ∨ c = 't' then takeClock? clock
      else if isTabOrSpace c then takeClock? (clock.dropWhile isTabOrSpace)
      else none
    return ⟨year, month, day, wide, some clock⟩

/-- Whether a text is taken for a day or moment by its look. A day alone needs two
digits for its month and for itself. -/
def looksMoment (s : List Char) : Bool :=
  (writtenMoment? s).any fun w => w.wide || w.clock.isSome

/-- Millionths of a second from the digits of a fraction; digits beyond the sixth are
of no account. -/
def microseconds (fraction : List Char) : Nat :=
  let digits := fraction.take 6
  numberOf 10 (digits.map fun c => c.toNat - 48) * Nat.pow 10 (6 - digits.length)

end LayeredSettings.Yaml

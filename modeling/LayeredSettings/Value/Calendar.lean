import LayeredSettings.Number.Shortest

namespace LayeredSettings

/-- A day of the Gregorian calendar. -/
structure Date where
  year : Nat
  month : Nat
  day : Nat
  deriving DecidableEq, Repr, Inhabited

/-- A moment of a day, with its distance east of universal time in seconds where
the zone is known. -/
structure DateTime where
  date : Date
  hour : Nat
  minute : Nat
  second : Nat
  microsecond : Nat
  offset : Option Int
  deriving DecidableEq, Repr, Inhabited

/-- What is wrong with a day or moment. -/
inductive CalendarFault where
  | year (year : Nat)
  | month
  | day
  | hour
  | minute
  | second
  | offset (seconds : Int)
  deriving DecidableEq, Repr

namespace Date

def isLeapYear (year : Nat) : Bool :=
  year % 4 == 0 && (year % 100 != 0 || year % 400 == 0)

def daysInMonth (year month : Nat) : Nat :=
  if month = 2 then if isLeapYear year then 29 else 28
  else if month = 4 ∨ month = 6 ∨ month = 9 ∨ month = 11 then 30 else 31

/-- The day, if it is one of the years 1 to 9999. -/
def check (year month day : Nat) : Except CalendarFault Date :=
  if year < 1 ∨ year > 9999 then .error (.year year)
  else if month < 1 ∨ month > 12 then .error .month
  else if day < 1 ∨ day > daysInMonth year month then .error .day
  else .ok ⟨year, month, day⟩

/-- Days since the first day of the year 1. -/
def ordinal (d : Date) : Nat :=
  let before := d.year - 1
  365 * before + before / 4 - before / 100 + before / 400 +
    (List.range (d.month - 1)).foldl (fun days m => days + daysInMonth d.year (m + 1)) 0 + d.day - 1

def text (d : Date) : String :=
  Double.padded 4 d.year ++ "-" ++ Double.padded 2 d.month ++ "-" ++ Double.padded 2 d.day

end Date

namespace DateTime

/-- The moment, if its day exists and its clock stays within a day. -/
def check (year month day hour minute second microsecond : Nat) (offset : Option Int) :
    Except CalendarFault DateTime := do
  let date ← Date.check year month day
  if hour > 23 then throw .hour
  if minute > 59 then throw .minute
  if second > 59 then throw .second
  return ⟨date, hour, minute, second, microsecond, offset⟩

/-- A distance from universal time, if it is less than a day. -/
def checkOffset (seconds : Int) : Except CalendarFault Int :=
  if -86400 < seconds ∧ seconds < 86400 then .ok seconds else .error (.offset seconds)

/-- Microseconds on the clock since the first day of the year 1, less the offset. -/
def instant (t : DateTime) : Int :=
  let seconds : Int := t.date.ordinal * 86400 + t.hour * 3600 + t.minute * 60 + t.second
  (seconds - t.offset.getD 0) * 1000000 + t.microsecond

/-- Moments are compared as instants, but never one with a zone to one without. -/
def equal (t u : DateTime) : Bool :=
  t.offset.isSome == u.offset.isSome && t.instant == u.instant

def offsetText (offset : Int) : String :=
  let minutes := offset.natAbs / 60
  (if offset < 0 then "-" else "+") ++ Double.padded 2 (minutes / 60) ++ ":" ++
    Double.padded 2 (minutes % 60)

/-- Day and clock with a separator between them, the fraction of a second only
where there is one. -/
def text (separator : String) (t : DateTime) : String :=
  t.date.text ++ separator ++ Double.padded 2 t.hour ++ ":" ++ Double.padded 2 t.minute ++ ":" ++
    Double.padded 2 t.second ++
    (if t.microsecond = 0 then "" else "." ++ Double.padded 6 t.microsecond) ++
    (t.offset.map offsetText).getD ""

end DateTime

end LayeredSettings

import LayeredSettings.Number.Double
import LayeredSettings.Text.Blank
import LayeredSettings.Text.Digit

namespace LayeredSettings

/-- A character as a plain one: digits of every script as the ten figures, and white
space as a blank. The characters of the common set stay what they are. -/
def plainChar (c : Char) : Char :=
  if c.toNat < 128 then c
  else match decimalDigit? c with
    | some d => Char.ofNat (48 + d)
    | none => if isBlank c then ' ' else c

/-- The blanks that may stand around a number: the space, the tab and the line ends. The
marks that separate records are no blanks there. -/
def isNumberBlank (c : Char) : Bool := c == ' ' || ('\t' ≤ c && c ≤ '\r')

/-- The plain characters of a number, without the blanks in front of it. -/
def plainText (s : List Char) : List Char := (s.map plainChar).dropWhile isNumberBlank

/-- The value of a figure or letter as a digit of a base. -/
def digitValue? (base : Nat) (c : Char) : Option Nat :=
  let n := c.toLower.toNat
  let value :=
    if 48 ≤ n ∧ n ≤ 57 then some (n - 48)
    else if 97 ≤ n ∧ n ≤ 122 then some (n - 87)
    else none
  value.filter (· < base)

/-- The digits of a text in which single underscores may stand between digits, none
if it holds anything else or no digit at all. -/
def digitsOf? (base : Nat) : List Char → Option (List Nat)
  | [] => none
  | c :: rest =>
    match digitValue? base c with
    | none => none
    | some d =>
      match rest with
      | [] => some [d]
      | '_' :: more => (digitsOf? base more).map (d :: ·)
      | c' :: more => (digitsOf? base (c' :: more)).map (d :: ·)

def numberOf (base : Nat) (digits : List Nat) : Nat := digits.foldl (fun n d => n * base + d) 0

/-- A leading sign, whether it is a minus, and the rest. -/
def leadingSign : List Char → Bool × List Char
  | '-' :: rest => (true, rest)
  | '+' :: rest => (false, rest)
  | rest => (false, rest)

/-- The letter that may follow a zero in front of the digits of a base. -/
def baseLetter? (base : Nat) : Option Char :=
  if base = 2 then some 'b' else if base = 8 then some 'o' else if base = 16 then some 'x' else none

/-- Takes a leading `0x` and the like away, with an underscore after it. -/
def dropBaseMark (base : Nat) (s : List Char) : List Char :=
  match s with
  | '0' :: letter :: '_' :: rest => if baseLetter? base = some letter.toLower then rest else s
  | '0' :: letter :: rest => if baseLetter? base = some letter.toLower then rest else s
  | _ => s

/-- Why a text is not read as a whole number. Decimal digits in a number above the limit
are refused for their cost, whatever stands behind them. -/
inductive WholeFault where
  | notANumber
  | tooManyDigits (count : Nat)
  deriving DecidableEq, Repr

/-- The greatest number of decimal digits a whole number is read from or written in. -/
def digitLimit : Nat := 4300

/-- Whether a character can be part of the digits of a number. -/
def isDigitMark (base : Nat) (c : Char) : Bool := (digitValue? base c).isSome || c == '_'

/-- Reads a whole number in a base: blanks around it, a sign, the mark of the base, and
digits with single underscores between them. -/
def readWhole (base : Nat) (s : List Char) : Except WholeFault Int :=
  let (negative, rest) := leadingSign (plainText s)
  let body := dropBaseMark base rest
  match digitsOf? base (body.takeWhile (isDigitMark base)) with
  | none => .error .notANumber
  | some digits =>
    if base = 10 ∧ digits.length > digitLimit then .error (.tooManyDigits digits.length)
    else if (body.dropWhile (isDigitMark base)).all isNumberBlank then
      .ok (Double.signed negative (numberOf base digits))
    else .error .notANumber

/-- Digits up to the first character that is none, with the underscores between
digits left out. -/
def takeDigits (s : List Char) : List Nat × List Char :=
  match s with
  | [] => ([], [])
  | c :: rest =>
    match digitValue? 10 c with
    | none => ([], s)
    | some d =>
      let others := takeDigits rest
      let skipped := match rest with
        | '_' :: more =>
          let beyond := takeDigits more
          if beyond.1.isEmpty then others else beyond
        | _ => others
      (d :: skipped.1, skipped.2)

/-- An exponent at the end of a text, zero if there is none. -/
def exponentOf? (s : List Char) : Option Int :=
  match s with
  | [] => some 0
  | e :: rest =>
    if e = 'e' ∨ e = 'E' then
      let (negative, rest) := leadingSign rest
      match takeDigits rest with
      | (d :: ds, []) => some (Double.signed negative (numberOf 10 (d :: ds)))
      | _ => none
    else none

/-- A text without the blanks behind a number. -/
def dropNumberBlanks (s : List Char) : List Char := (s.reverse.dropWhile isNumberBlank).reverse

/-- Reads a floating-point number: digits with a point and an exponent, or a word
for an infinity or for not a number, which is given the origin. -/
def readDouble? (origin : NanOrigin) (s : List Char) : Option Double :=
  let (negative, rest) := leadingSign (dropNumberBlanks (plainText s))
  let word := rest.map Char.toLower
  if word = ['i', 'n', 'f'] ∨ word = "infinity".toList then some (.infinite negative)
  else if word = ['n', 'a', 'n'] then some (.nan origin)
  else
    let (whole, rest) := takeDigits rest
    let (fraction, rest) := match rest with
      | '.' :: more => takeDigits more
      | _ => ([], rest)
    if whole.isEmpty && fraction.isEmpty then none
    else (exponentOf? rest).map fun exponent =>
      Double.ofDecimal negative (numberOf 10 (whole ++ fraction)) (exponent - (fraction.length : Int))

end LayeredSettings

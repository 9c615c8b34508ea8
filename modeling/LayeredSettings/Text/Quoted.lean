import LayeredSettings.Text.Printable
import LayeredSettings.Text.Surrogate

namespace LayeredSettings

/-- The lower-case hexadecimal digits of a number, with zeros in front up to a
width. -/
def hexDigits (width n : Nat) : List Char :=
  let digits := Nat.toDigits 16 n
  List.replicate (width - digits.length) '0' ++ digits

/-- An escape for a code point with two, four or eight hexadecimal digits,
whichever is the first to hold it. -/
def hexEscape (n : Nat) : List Char :=
  if n < 0x100 then '\\' :: 'x' :: hexDigits 2 n
  else if n < 0x10000 then '\\' :: 'u' :: hexDigits 4 n
  else '\\' :: 'U' :: hexDigits 8 n

/-- The mark around a quoted text: an apostrophe, unless the text holds one and
no double quote. -/
def quoteMark (s : List Char) : Char :=
  if s.contains '\'' && !s.contains '"' then '"' else '\''

/-- A character inside quotes. The mark, the backslash, line ends and the tab are
escaped by a backslash, and what has no glyph by its code. -/
def quotedChar (mark c : Char) : List Char :=
  if c = mark || c = '\\' then ['\\', c]
  else if c = '\n' then ['\\', 'n']
  else if c = '\r' then ['\\', 'r']
  else if c = '\t' then ['\\', 't']
  else if isPrintable c then [c]
  else hexEscape (codeOfChar c)

def quoteChars (s : List Char) : List Char :=
  let mark := quoteMark s
  mark :: s.flatMap (quotedChar mark) ++ [mark]

/-- A text between quotes, with all that cannot be shown escaped. -/
def quoted (s : String) : String := String.ofList (quoteChars s.toList)

/-- A byte inside quotes: as a character where it is a visible one, else by its
code. -/
def quotedByte (mark : Char) (b : UInt8) : List Char :=
  let c := Char.ofNat b.toNat
  if c = mark || c = '\\' then ['\\', c]
  else if c = '\n' then ['\\', 'n']
  else if c = '\r' then ['\\', 'r']
  else if c = '\t' then ['\\', 't']
  else if 0x20 ≤ b && b < 0x7F then [c]
  else '\\' :: 'x' :: hexDigits 2 b.toNat

/-- Bytes between quotes, after the letter that marks them as bytes. -/
def quotedBytes (bytes : List UInt8) : String :=
  let mark := quoteMark (bytes.map fun b => Char.ofNat b.toNat)
  String.ofList ('b' :: mark :: bytes.flatMap (quotedByte mark) ++ [mark])

end LayeredSettings

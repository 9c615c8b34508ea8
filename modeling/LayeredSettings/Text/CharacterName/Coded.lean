import LayeredSettings.Text.Ranges

namespace LayeredSettings

/-- The number that four or five capital hexadecimal digits stand for. -/
def ideographCode? (s : List Char) : Option Nat :=
  if (s.length = 4 ∨ s.length = 5) ∧ s.all (fun c => c.isDigit || ('A' ≤ c && c ≤ 'F')) then
    some (s.foldl (fun n c => n * 16 + (if c.isDigit then c.toNat - 48 else c.toNat - 55)) 0)
  else none

def ideographHeading : List Char := "CJK UNIFIED IDEOGRAPH-".toList

def ideographRanges : CodeRanges := [(0x3400, 0x4DBF), (0x4E00, 0x9FFF), (0x20000, 0x2A6DF),
  (0x2A700, 0x2B738), (0x2B740, 0x2B81D), (0x2B820, 0x2CEA1), (0x2CEB0, 0x2EBE0), (0x30000, 0x3134A)]

/-- Other headings that the code of a character is put after, and the characters
named so. -/
def codedHeadings : List (String × CodeRanges) := [
  ("CJK COMPATIBILITY IDEOGRAPH-", [(0xF900, 0xFA6D), (0xFA70, 0xFAD9), (0x2F800, 0x2FA1D)]),
  ("KHITAN SMALL SCRIPT CHARACTER-", [(0x18B00, 0x18CD5)]),
  ("NUSHU CHARACTER-", [(0x1B170, 0x1B2FB)])]

/-- The code point of a character whose name ends in its code, written without
needless zeros. -/
def codedName? (name : List Char) : Option Nat :=
  codedHeadings.findSome? fun (heading, ranges) =>
    if heading.toList.isPrefixOf name then
      (ideographCode? (name.drop heading.length)).filter fun n =>
        ranges.covers n && name.length = heading.length + (if n < 0x10000 then 4 else 5)
    else none

end LayeredSettings

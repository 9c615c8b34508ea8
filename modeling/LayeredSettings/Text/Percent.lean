import LayeredSettings.Number.Reading
import LayeredSettings.Text.Utf8

namespace LayeredSettings

/-- A byte written in two hexadecimal digits. -/
def hexByte? (a b : Char) : Option UInt8 := do
  let high ← digitValue? 16 a
  let low ← digitValue? 16 b
  return UInt8.ofNat (high * 16 + low)

/-- A text in which bytes may be written after percent signs, with the bytes before it
that only make characters together with what follows. A percent sign without two
digits stands for itself. -/
def percentDecodedFrom (bytes : List UInt8) (s : List Char) : List Char :=
  match s with
  | '%' :: a :: b :: rest =>
    match hexByte? a b with
    | some byte => percentDecodedFrom (bytes ++ [byte]) rest
    | none => percentDecodedFrom (bytes ++ [0x25]) (a :: b :: rest)
  | c :: rest =>
    if c.toNat < 128 then percentDecodedFrom (bytes ++ [UInt8.ofNat c.toNat]) rest
    else decodeLossy bytes ++ c :: percentDecodedFrom [] rest
  | [] => decodeLossy bytes

def percentDecoded (s : String) : String := String.ofList (percentDecodedFrom [] s.toList)

end LayeredSettings

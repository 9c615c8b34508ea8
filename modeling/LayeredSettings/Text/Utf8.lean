import LayeredSettings.Text.Quoted

namespace LayeredSettings

/-- Why bytes are no text. -/
inductive ByteFault where
  | badStart
  | badContinuation
  | cutShort
  deriving DecidableEq, Repr

/-- The first bytes that are no text: their position and the bytes that were taken
together when the fault showed. -/
structure DecodeFault where
  position : Nat
  bytes : List UInt8
  fault : ByteFault
  deriving DecidableEq, Repr

def ByteFault.reason : ByteFault → String
  | .badStart => "invalid start byte"
  | .badContinuation => "invalid continuation byte"
  | .cutShort => "unexpected end of data"

def DecodeFault.message (f : DecodeFault) : String :=
  let place := match f.bytes with
    | [b] => "byte 0x" ++ String.ofList (hexDigits 2 b.toNat) ++ " in position " ++ toString f.position
    | bytes => "bytes in position " ++ toString f.position ++ "-" ++
      toString (f.position + bytes.length - 1)
  "'utf-8' codec can't decode " ++ place ++ ": " ++ f.fault.reason

/-- The first halves of surrogate pairs that keep a text from being written as bytes: the
position of the first, its code, and how many follow one another. -/
structure EncodeFault where
  position : Nat
  code : Nat
  count : Nat
  deriving DecidableEq, Repr

def EncodeFault.message (f : EncodeFault) : String :=
  let place := if f.count = 1 then
      "character '" ++ String.ofList (hexEscape f.code) ++ "' in position " ++ toString f.position
    else "characters in position " ++ toString f.position ++ "-" ++ toString (f.position + f.count - 1)
  "'utf-8' codec can't encode " ++ place ++ ": surrogates not allowed"

def encodeFault? (s : List Char) : Option EncodeFault :=
  let position := (s.takeWhile fun c => (surrogate? c).isNone).length
  let halves := ((s.drop position).map surrogate?).takeWhile Option.isSome
  halves.head?.join.map fun code => ⟨position, code, halves.length⟩

/-- A text with the halves of surrogate pairs written as escapes. -/
def escapeSurrogates (s : List Char) : List Char :=
  s.flatMap fun c => match surrogate? c with
    | some code => hexEscape code
    | none => [c]

def isContinuation (b : UInt8) : Bool := 0x80 ≤ b && b < 0xC0

/-- How many bytes a character takes whose first byte is `b`, and between what
bounds its second byte lies. The bounds leave out spellings that are too long,
surrogates and codes that are too large. -/
def leadByte? (b : UInt8) : Option (Nat × UInt8 × UInt8) :=
  if b < 0x80 then some (1, 0, 0)
  else if b < 0xC2 then none
  else if b < 0xE0 then some (2, 0x80, 0xBF)
  else if b < 0xF0 then some (3, if b = 0xE0 then 0xA0 else 0x80, if b = 0xED then 0x9F else 0xBF)
  else if b < 0xF5 then some (4, if b = 0xF0 then 0x90 else 0x80, if b = 0xF4 then 0x8F else 0xBF)
  else none

/-- The bytes after the first one of a character of `length` bytes that can belong
to it. -/
def following (length : Nat) (low high : UInt8) : List UInt8 → List UInt8
  | [] => []
  | b :: rest =>
    if length ≤ 1 ∨ b < low ∨ high < b then []
    else b :: (rest.take (length - 2)).takeWhile isContinuation

def codePoint (first : UInt8) (others : List UInt8) : Nat :=
  let lead := first.toNat
  let top := match others.length with
    | 0 => lead
    | 1 => lead - 0xC0
    | 2 => lead - 0xE0
    | _ => lead - 0xF0
  others.foldl (fun n b => n * 64 + (b.toNat - 0x80)) top

/-- One character at the head of bytes that are not empty, and what follows it. -/
def decodeChar (position : Nat) (first : UInt8) (rest : List UInt8) :
    Except DecodeFault (Char × Nat) :=
  match leadByte? first with
  | none => .error ⟨position, [first], .badStart⟩
  | some (length, low, high) =>
    let others := following length low high rest
    if others.length + 1 = length then .ok (Char.ofNat (codePoint first others), others.length)
    else if others.length = rest.length then .error ⟨position, first :: others, .cutShort⟩
    else .error ⟨position, first :: others, .badContinuation⟩

/-- The text that bytes spell, read from a position on. -/
def decodeFrom (position : Nat) (bytes : List UInt8) : Except DecodeFault (List Char) :=
  match bytes with
  | [] => .ok []
  | first :: rest =>
    match decodeChar position first rest with
    | .error fault => .error fault
    | .ok (c, used) =>
      match decodeFrom (position + used + 1) (rest.drop used) with
      | .error fault => .error fault
      | .ok chars => .ok (c :: chars)
termination_by bytes.length
decreasing_by simp only [List.length_drop, List.length_cons]; omega

def decodeUtf8 (bytes : List UInt8) : Except DecodeFault (List Char) := decodeFrom 0 bytes

/-- The text that bytes spell, with one replacement character for each run of bytes
that is no text. -/
def decodeLossy (bytes : List UInt8) : List Char :=
  match bytes with
  | [] => []
  | first :: rest =>
    match decodeChar 0 first rest with
    | .error fault => '\uFFFD' :: decodeLossy (rest.drop (fault.bytes.length - 1))
    | .ok (c, used) => c :: decodeLossy (rest.drop used)
termination_by bytes.length
decreasing_by all_goals simp only [List.length_drop, List.length_cons]; omega

def encodeUtf8 (s : String) : List UInt8 := s.toUTF8.toList

/-- A text with every kind of line end written as a line feed. -/
def unifyLineEnds : List Char → List Char
  | [] => []
  | '\r' :: '\n' :: rest => '\n' :: unifyLineEnds rest
  | c :: rest => (if c = '\r' then '\n' else c) :: unifyLineEnds rest

end LayeredSettings

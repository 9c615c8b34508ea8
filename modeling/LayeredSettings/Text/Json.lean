import LayeredSettings.Text.Quoted

namespace LayeredSettings

/-- The units of sixteen bits of a character: one, or a pair of surrogates. -/
def utf16Units (c : Char) : List Nat :=
  let n := codeOfChar c
  if n < 0x10000 then [n]
  else [0xD800 + (n - 0x10000) / 0x400, 0xDC00 + (n - 0x10000) % 0x400]

/-- A character inside a text of a JSON document that holds plain characters only. -/
def jsonChar (c : Char) : List Char :=
  if c = '"' || c = '\\' then ['\\', c]
  else if c = '\n' then ['\\', 'n']
  else if c = '\r' then ['\\', 'r']
  else if c = '\t' then ['\\', 't']
  else if c = '\x08' then ['\\', 'b']
  else if c = '\x0c' then ['\\', 'f']
  else if ' ' ≤ c && c ≤ '~' then [c]
  else (utf16Units c).flatMap fun unit => '\\' :: 'u' :: hexDigits 4 unit

def jsonText (s : String) : String := String.ofList ('"' :: s.toList.flatMap jsonChar ++ ['"'])

/-- A JSON object of texts and nulls, one member a line. -/
def jsonObject (members : List (String × Option String)) : String :=
  let line := fun (name, value) =>
    "    " ++ jsonText name ++ ": " ++ ((value.map jsonText).getD "null")
  "\x7b\n" ++ ",\n".intercalate (members.map line) ++ "\n\x7d"

end LayeredSettings

import LayeredSettings.Text.Surrogate
import LayeredSettings.Yaml.Fault
import LayeredSettings.Yaml.Line

namespace LayeredSettings.Yaml

/-- What stands between two visible parts of a quoted scalar: blanks on one line,
or line ends, of which the first is folded unless it was escaped. -/
inductive Gap where
  | none
  | blanks (s : List Char)
  | lines (folded : Option Char) (breaks : List Char)

namespace Gap

/-- A line end folds to a space, unless more of them follow or it is a separator of
lines or paragraphs. -/
def text : Gap → List Char
  | none => []
  | blanks s => s
  | lines .none breaks => breaks
  | lines (some c) breaks =>
    if c ≠ '\n' then c :: breaks else if breaks.isEmpty then [' '] else breaks

/-- Blanks around line ends vanish. -/
def addBlank (c : Char) : Gap → Gap
  | none => blanks [c]
  | blanks s => blanks (s ++ [c])
  | gap => gap

def addBreak (c : Char) : Gap → Gap
  | lines folded breaks => lines folded (breaks ++ [c])
  | _ => lines (some c) []

end Gap

/-- The code that one character after a backslash stands for. -/
def escapeCode? (c : Char) : Option Nat :=
  ([('0', 0), ('a', 7), ('b', 8), ('t', 9), ('\t', 9), ('n', 10), ('v', 11), ('f', 12), ('r', 13),
    ('e', 27), (' ', 32), ('"', 34), ('\\', 92), ('/', 47), ('N', 0x85), ('_', 0xA0), ('L', 0x2028),
    ('P', 0x2029)]).lookup c

/-- How many hexadecimal digits follow the letter of an escape. -/
def escapeWidth? (c : Char) : Option Nat := [('x', 2), ('u', 4), ('U', 8)].lookup c

/-- The number that the first characters of a text spell in hexadecimal digits. -/
def hexCode? (width : Nat) (s : List Char) : Option Nat :=
  if s.length < width then none
  else ((s.take width).mapM (digitValue? 16)).map (numberOf 16)

/-- The characters of a quoted scalar up to its closing mark, and the text after it. Two
marks in a row are one that belongs to the scalar if the mark is an apostrophe;
between double quotes a backslash begins an escape. -/
def quotedChars (mark : Char) (gap : Gap) (s : List Char) :
    Except YamlFault (List Char × List Char) :=
  let more (chars : List Char) (rest : Except YamlFault (List Char × List Char)) :=
    rest.map fun r => (gap.text ++ chars ++ r.1, r.2)
  let cross (rest : List Char) (read : Except YamlFault (List Char × List Char)) :=
    if atDocumentBorder rest then .error .malformed else read
  match s with
  | [] => .error .malformed
  | '\r' :: '\n' :: rest =>
    cross rest (quotedChars mark (gap.addBreak '\n') rest)
  | c :: rest =>
    if isBreak c then cross rest (quotedChars mark (gap.addBreak (breakChar c)) rest)
    else if c == ' ' || c == '\t' then quotedChars mark (gap.addBlank c) rest
    else if c == mark then
      match mark, rest with
      | '\'', '\'' :: rest => more [c] (quotedChars mark .none rest)
      | _, _ => .ok (gap.text, rest)
    else if c == '\\' && mark == '"' then
      match rest with
      | [] => .error .malformed
      | '\r' :: '\n' :: rest =>
        more [] (cross rest (quotedChars mark (.lines none []) rest))
      | e :: rest =>
        match escapeCode? e, escapeWidth? e with
        | some code, _ => more [charOfCode code] (quotedChars mark .none rest)
        | none, some width =>
          match hexCode? width rest with
          | none => .error .malformed
          | some code =>
            if code > 0x10FFFF then .error (.scalar (.codeTooLarge code))
            else more [charOfCode code] (quotedChars mark .none (rest.drop width))
        | none, none =>
          if isBreak e then more [] (cross rest (quotedChars mark (.lines none []) rest))
          else .error .malformed
    else more [c] (quotedChars mark .none rest)
termination_by s.length
decreasing_by all_goals simp_all only [List.length_drop, List.length_cons]; omega

/-- A quoted scalar whose opening mark was read. -/
def quotedScalar (mark : Char) (s : List Char) : Except YamlFault (List Char × List Char) :=
  quotedChars mark .none s

end LayeredSettings.Yaml

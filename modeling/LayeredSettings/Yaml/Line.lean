namespace LayeredSettings.Yaml

/-- The characters that end a line. -/
def isBreak (c : Char) : Bool :=
  c == '\n' || c == '\r' || c == '\x85' || c == '\u2028' || c == '\u2029'

/-- What the line end a character stands for adds to a text. The separators of lines
and paragraphs stay what they are. -/
def breakChar (c : Char) : Char := if c == '\u2028' || c == '\u2029' then c else '\n'

/-- The line end at the head of a text and what follows it. A carriage return and
a line feed are one line end. -/
def takeBreak? : List Char → Option (Char × List Char)
  | '\r' :: '\n' :: rest => some ('\n', rest)
  | c :: rest => if isBreak c then some (breakChar c, rest) else none
  | [] => none

/-- Whether a text ends or goes on with a space or a line end. -/
def atSpace : List Char → Bool
  | [] => true
  | c :: _ => c == ' ' || isBreak c

/-- Whether a text ends or goes on with a space, a tab or a line end. -/
def atBlank : List Char → Bool
  | [] => true
  | c :: _ => c == ' ' || c == '\t' || isBreak c

def startsDocument : List Char → Bool
  | '-' :: '-' :: '-' :: rest => atBlank rest
  | _ => false

def endsDocument : List Char → Bool
  | '.' :: '.' :: '.' :: rest => atBlank rest
  | _ => false

/-- Whether a line is the border of a document. No scalar runs across it. -/
def atDocumentBorder (s : List Char) : Bool := startsDocument s || endsDocument s

/-- What follows a line of which only spaces and a comment may be left. -/
def afterLine? (s : List Char) : Option (List Char) :=
  let s := s.dropWhile (· == ' ')
  let s := if s.head? = some '#' then s.dropWhile (!isBreak ·) else s
  if s.isEmpty then some s else (takeBreak? s).map Prod.snd

/-- Leaves out spaces, comments and line ends, and says whether there was a line
end. -/
def skipGap (inComment crossed : Bool) : List Char → Bool × List Char
  | [] => (crossed, [])
  | c :: rest =>
    if isBreak c then skipGap false true rest
    else if inComment || c == ' ' then skipGap inComment crossed rest
    else if c == '#' then skipGap true crossed rest
    else (crossed, c :: rest)

theorem length_takeBreak? {s rest : List Char} {c : Char} (taken : takeBreak? s = some (c, rest)) :
    rest.length < s.length := by
  unfold takeBreak? at taken
  split at taken
  · cases taken; simp only [List.length_cons]; omega
  · split at taken
    · cases taken; simp only [List.length_cons]; omega
    · cases taken
  · cases taken

theorem length_dropWhile_le (p : Char → Bool) (s : List Char) :
    (s.dropWhile p).length ≤ s.length := (List.dropWhile_sublist p).length_le

end LayeredSettings.Yaml

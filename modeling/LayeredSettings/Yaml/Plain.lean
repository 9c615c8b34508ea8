import LayeredSettings.Yaml.Line

namespace LayeredSettings.Yaml

/-- Whether a plain scalar ends in front of a text: at a blank, at a colon with a
blank after it, and inside brackets also at their marks. -/
def endsPlain (inFlow : Bool) : List Char → Bool
  | [] => true
  | ':' :: rest =>
    atBlank rest || (inFlow && rest.head?.any fun c => c ∈ [',', '[', ']', '{', '}'])
  | c :: rest =>
    atBlank (c :: rest) || (inFlow && c ∈ [',', '?', '[', ']', '{', '}'])

/-- A part of a plain scalar without blanks, and what follows it. -/
def plainWord (inFlow : Bool) : List Char → List Char × List Char
  | [] => ([], [])
  | c :: rest =>
    if endsPlain inFlow (c :: rest) then ([], c :: rest)
    else
      let (word, rest) := plainWord inFlow rest
      (c :: word, rest)

/-- What follows a word of a plain scalar: whether a line ends in it, what it adds
to the scalar if the scalar may go on, and the text behind it. -/
structure PlainGap where
  endsLine : Bool
  text : Option (List Char)
  rest : List Char

/-- Spaces and line ends after the first line end of a gap, the column the text goes
on at and the rest. They add nothing if a document ends among them. -/
def plainLines (column : Nat) : List Char → Option (List Char) × Nat × List Char
  | ' ' :: rest => plainLines (column + 1) rest
  | '\r' :: '\n' :: rest =>
    if atDocumentBorder rest then (none, 0, rest)
    else
      let (breaks, column, rest) := plainLines 0 rest
      (breaks.map ('\n' :: ·), column, rest)
  | c :: rest =>
    if isBreak c then
      if atDocumentBorder rest then (none, 0, rest)
      else
        let (breaks, column, rest) := plainLines 0 rest
        (breaks.map (breakChar c :: ·), column, rest)
    else (some [], column, c :: rest)
  | [] => (some [], column, [])

/-- The gap after a word. The scalar cannot go on in front of a comment, and outside
of brackets not on a line that is indented too little. -/
def plainGap (inFlow : Bool) (indent : Nat) (s : List Char) : PlainGap :=
  let spaces := s.takeWhile (· == ' ')
  let s := s.dropWhile (· == ' ')
  let gap : PlainGap := match takeBreak? s with
    | none => ⟨false, if spaces.isEmpty then none else some spaces, s⟩
    | some (c, rest) =>
      if atDocumentBorder rest then ⟨true, none, rest⟩
      else
        let (breaks, column, rest) := plainLines 0 rest
        let text := breaks.map fun breaks =>
          if c ≠ '\n' then c :: breaks else if breaks.isEmpty then [' '] else breaks
        ⟨true, if !inFlow && column < indent then none else text, rest⟩
  { gap with text := if gap.rest.head? = some '#' then none else gap.text }

theorem length_plainWord (inFlow : Bool) (s : List Char) :
    (plainWord inFlow s).1.length + (plainWord inFlow s).2.length = s.length := by
  fun_induction plainWord inFlow s with
  | case1 => rfl
  | case2 => simp
  | case3 c rest h word after eq ih => simp_all only [List.length_cons]; omega

theorem length_plainLines (column : Nat) (s : List Char) :
    (plainLines column s).2.2.length ≤ s.length := by
  fun_induction plainLines column s <;> simp_all only [List.length_cons] <;> omega

theorem length_plainGap (inFlow : Bool) (indent : Nat) (s : List Char) :
    (plainGap inFlow indent s).rest.length ≤ s.length := by
  have spaces := length_dropWhile_le (· == ' ') s
  simp only [plainGap]
  split
  · exact spaces
  · next c rest taken =>
    have shorter := length_takeBreak? taken
    have within := Nat.le_trans (Nat.le_of_lt shorter) spaces
    split
    · exact within
    · exact Nat.le_trans (length_plainLines 0 rest) within

/-- What goes on after a word and its gap is shorter than what began with the word. -/
theorem length_plainGap_lt {inFlow : Bool} (indent : Nat) {s : List Char}
    (word : (plainWord inFlow s).1 ≠ []) :
    (plainGap inFlow indent (plainWord inFlow s).2).rest.length < s.length := by
  have parts := length_plainWord inFlow s
  have bound := length_plainGap inFlow indent (plainWord inFlow s).2
  have := List.length_pos_iff.2 word
  omega

/-- A plain scalar, empty if there is none, and what follows the gap after its last
word. -/
def plainScalar (inFlow : Bool) (indent : Nat) (s : List Char) : List Char × PlainGap :=
  if empty : (plainWord inFlow s).1 = [] then ([], ⟨false, none, s⟩)
  else
    let word := (plainWord inFlow s).1
    let gap := plainGap inFlow indent (plainWord inFlow s).2
    match gap.text with
    | none => (word, gap)
    | some between =>
      have := length_plainGap_lt indent empty
      let (more, last) := plainScalar inFlow indent gap.rest
      if more.isEmpty then (word, gap) else (word ++ between ++ more, last)
termination_by s.length

end LayeredSettings.Yaml

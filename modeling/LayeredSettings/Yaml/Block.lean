import LayeredSettings.Yaml.Line

namespace LayeredSettings.Yaml

/-- What becomes of the line ends after the last line of a block scalar. -/
inductive Chomp where
  | clip
  | strip
  | keep
  deriving DecidableEq

def Chomp.ofSign? : Char → Option Chomp
  | '+' => some .keep
  | '-' => some .strip
  | _ => none

/-- A digit that says how far a block scalar is indented. -/
def indentDigit? (c : Char) : Option Nat :=
  if c.isDigit then some (c.toNat - 48) else none

/-- How a block scalar ends and how far it is indented, if its first line says so, in
either order, and the text after that line. -/
def blockHeader? (s : List Char) : Option (Chomp × Option Nat × List Char) :=
  let (chomp, increment, rest) : Option Chomp × Option Nat × List Char :=
    match s with
    | [] => (none, none, [])
    | c :: rest =>
      match Chomp.ofSign? c, indentDigit? c with
      | some chomp, _ =>
        match rest.head?.bind indentDigit? with
        | some n => (some chomp, some n, rest.drop 1)
        | none => (some chomp, none, rest)
      | none, some n =>
        match rest.head?.bind Chomp.ofSign? with
        | some chomp => (some chomp, some n, rest.drop 1)
        | none => (none, some n, rest)
      | none, none => (none, none, s)
  if increment = some 0 || !atSpace rest then none
  else (afterLine? rest).map fun rest => (chomp.getD .clip, increment, rest)

/-- Spaces up to a column, and line ends: the line ends, the largest column, the
column that is reached, and the rest. -/
def leadingLines (limit : Option Nat) (column most : Nat) (s : List Char) :
    List Char × Nat × Nat × List Char :=
  match s with
  | [] => ([], most, column, [])
  | ' ' :: rest =>
    if limit.all (column < ·) then leadingLines limit (column + 1) (max most (column + 1)) rest
    else ([], most, column, ' ' :: rest)
  | '\r' :: '\n' :: rest =>
    let (breaks, found) := leadingLines limit 0 most rest
    ('\n' :: breaks, found)
  | c :: rest =>
    if isBreak c then
      let (breaks, found) := leadingLines limit 0 most rest
      (breakChar c :: breaks, found)
    else ([], most, column, c :: rest)

theorem length_leadingLines (limit : Option Nat) (column most : Nat) (s : List Char) :
    (leadingLines limit column most s).2.2.2.length ≤ s.length := by
  fun_induction leadingLines limit column most s with
  | case1 => exact Nat.le_refl _
  | case2 _ _ rest _ ih => simp only [List.length_cons]; omega
  | case3 => exact Nat.le_refl _
  | case4 _ _ rest breaks found eq ih =>
    simp only [eq] at ih
    simp only [List.length_cons]; omega
  | case5 _ _ c rest _ _ _ breaks found eq ih =>
    simp only [eq] at ih
    simp only [List.length_cons]; omega
  | case6 => exact Nat.le_refl _

def startsBlank : List Char → Bool
  | [] => false
  | c :: _ => c == ' ' || c == '\t'

/-- The lines of a block scalar from the first character of one on, and the text after
the scalar. In a folded scalar a line end between two lines that do not start with
a blank becomes a space, or nothing if empty lines follow it. -/
def blockLines (folded : Bool) (chomp : Chomp) (indent : Nat) (s : List Char) :
    List Char × List Char :=
  match s with
  | [] => ([], [])
  | c :: tail =>
    let line := c :: tail.takeWhile (!isBreak ·)
    let after := tail.dropWhile (!isBreak ·)
    let ended := takeBreak? after
    let lineEnd := (ended.map Prod.fst).toList
    let beyond := (ended.map Prod.snd).getD []
    let next := leadingLines (some indent) 0 0 beyond
    let (breaks, _, column, rest) := next
    if column = indent ∧ rest ≠ [] then
      let joint :=
        if folded && lineEnd = ['\n'] && !startsBlank line && !startsBlank rest then
          if breaks.isEmpty then [' '] else []
        else lineEnd
      let (more, rest) := blockLines folded chomp indent next.2.2.2
      (line ++ joint ++ breaks ++ more, rest)
    else
      (line ++ (if chomp = .strip then [] else lineEnd) ++ (if chomp = .keep then breaks else []),
        rest)
termination_by s.length
decreasing_by
  have inLine := length_dropWhile_le (!isBreak ·) tail
  have lead := length_leadingLines (some indent) 0 0
    (((takeBreak? (tail.dropWhile (!isBreak ·))).map Prod.snd).getD [])
  have ended : (((takeBreak? (tail.dropWhile (!isBreak ·))).map Prod.snd).getD []).length ≤
      (tail.dropWhile (!isBreak ·)).length := by
    cases taken : takeBreak? (tail.dropWhile (!isBreak ·)) with
    | none => simp
    | some r => exact Nat.le_of_lt (length_takeBreak? taken)
  simp only [List.length_cons]
  omega

/-- A block scalar after its mark, inside a collection at the given column if it is
inside one. Where the first line does not say how far the scalar is indented, its
first lines do. -/
def blockScalar? (folded : Bool) (parent : Option Nat) (s : List Char) :
    Option (List Char × List Char) :=
  match blockHeader? s with
  | none => none
  | some (chomp, increment, body) =>
    let least := max 1 ((parent.map (· + 1)).getD 0)
    let indent := match increment with
      | some n => least + n - 1
      | none => max least (leadingLines none 0 0 body).2.1
    let limit := if increment.isSome then some indent else none
    let (breaks, _, column, rest) := leadingLines limit 0 0 body
    if column = indent ∧ rest ≠ [] then
      let (text, rest) := blockLines folded chomp indent rest
      some (breaks ++ text, rest)
    else some (if chomp = .keep then breaks else [], rest)

end LayeredSettings.Yaml

import LayeredSettings.Console.Emoji

namespace LayeredSettings

/-- Whether a character can follow the opening bracket of a tag. -/
def isTagStart (c : Char) : Bool := ('a' ≤ c && c ≤ 'z') || c = '#' || c = '/' || c = '@'

/-- The rest of a tag up to its closing bracket, and what follows the bracket. There
is no opening bracket inside a tag. -/
def tagRest? : List Char → Option (List Char × List Char)
  | [] => none
  | c :: rest =>
    if c = ']' then some ([], rest)
    else if c = '[' then none
    else (tagRest? rest).map fun (inside, after) => (c :: inside, after)

theorem length_lt_of_tagRest? {s inside after : List Char} (h : tagRest? s = some (inside, after)) :
    after.length < s.length := by
  induction s generalizing inside with
  | nil => simp [tagRest?] at h
  | cons c rest ih =>
    rw [tagRest?] at h
    split at h
    · simp_all
    · split at h
      · simp at h
      · obtain ⟨⟨i, a⟩, found, pair⟩ := Option.map_eq_some_iff.mp h
        simp only [Prod.mk.injEq] at pair
        obtain ⟨rfl, rfl⟩ := pair
        have := ih found
        simp only [List.length_cons]
        omega

/-- Writes a text so that nothing in it is taken for a tag: a backslash stands before
each opening bracket of a tag, and those that stood there already are doubled.
`slashes` are the backslashes directly before `s`. -/
def escapeTags (slashes : Nat) (s : List Char) : List Char :=
  match s with
  | [] => List.replicate slashes '\\'
  | '\\' :: rest => escapeTags (slashes + 1) rest
  | c :: rest =>
    match c, rest with
    | '[', first :: more =>
      if isTagStart first then
        match h : tagRest? more with
        | some (inside, after) =>
          have : after.length < more.length := length_lt_of_tagRest? h
          List.replicate (2 * slashes + 1) '\\' ++ '[' :: first :: inside ++ ']' :: escapeTags 0 after
        | none => List.replicate slashes '\\' ++ '[' :: escapeTags 0 (first :: more)
      else List.replicate slashes '\\' ++ '[' :: escapeTags 0 (first :: more)
    | c, rest => List.replicate slashes '\\' ++ c :: escapeTags 0 rest
termination_by s.length
decreasing_by all_goals simp_wf <;> omega

/-- A single backslash at the end is doubled, so that it does not reach what is
written after the text. -/
def closeSlash (s : List Char) : List Char :=
  match s.reverse with
  | '\\' :: '\\' :: _ => s
  | '\\' :: _ => s ++ ['\\']
  | _ => s

/-- Puts a text in front of the first of some pieces. -/
def ontoFirst (front : List Char) : List (List Char) → List (List Char)
  | [] => [front]
  | piece :: rest => (front ++ piece) :: rest

/-- The pieces of text that markup shows: tags are left out, and a tag behind an odd number of
backslashes is a piece of its own. Half of the backslashes in front of a tag are shown, and one
is left out in front of any other opening bracket. -/
def shownPieces (slashes : Nat) (s : List Char) : List (List Char) :=
  match s with
  | [] => [List.replicate slashes '\\']
  | '\\' :: rest => shownPieces (slashes + 1) rest
  | c :: rest =>
    match c, rest with
    | '[', first :: more =>
      if isTagStart first then
        match h : tagRest? more with
        | some (inside, after) =>
          have : after.length < more.length := length_lt_of_tagRest? h
          let tag := if slashes % 2 = 1 then '[' :: first :: inside ++ [']'] else []
          [] :: List.replicate (slashes / 2) '\\' :: tag :: shownPieces 0 after
        | none => ontoFirst (List.replicate (slashes - 1) '\\' ++ ['[']) (shownPieces 0 (first :: more))
      else ontoFirst (List.replicate (slashes - 1) '\\' ++ ['[']) (shownPieces 0 (first :: more))
    | '[', [] => [List.replicate (slashes - 1) '\\' ++ ['[']]
    | c, rest => ontoFirst (List.replicate slashes '\\' ++ [c]) (shownPieces 0 rest)
termination_by s.length
decreasing_by all_goals simp_wf <;> omega

/-- The text that markup shows, with pictures in place of their codes in each of its pieces. -/
def shownMarkup (s : String) : String := String.ofList ((shownPieces 0 s.toList).flatMap drawn)

def escapeMarkup (s : String) : String := String.ofList (closeSlash (escapeTags 0 s.toList))

end LayeredSettings

namespace LayeredSettings

/-- The parts of a text between the occurrences of a mark. A text without the mark
is its own single part. -/
def splitAt (mark : Char) : List Char → List (List Char)
  | [] => [[]]
  | c :: rest =>
    if c = mark then [] :: splitAt mark rest
    else match splitAt mark rest with
      | [] => [[c]]
      | first :: others => (c :: first) :: others

theorem splitAt_ne_nil (mark : Char) (s : List Char) : splitAt mark s ≠ [] := by
  cases s with
  | nil => simp [splitAt]
  | cons c rest =>
    rw [splitAt]
    split
    · simp
    · split <;> simp

/-- The parts put together again, with the mark between them. -/
def joinWith (mark : Char) : List (List Char) → List Char
  | [] => []
  | [part] => part
  | part :: rest => part ++ mark :: joinWith mark rest

theorem joinWith_splitAt (mark : Char) (s : List Char) : joinWith mark (splitAt mark s) = s := by
  induction s with
  | nil => rfl
  | cons c rest ih =>
    rw [splitAt]
    split
    · next same =>
      subst same
      cases h : splitAt c rest with
      | nil => exact absurd h (splitAt_ne_nil c rest)
      | cons first others => simp [joinWith, ← h, ih]
    · cases h : splitAt mark rest with
      | nil => exact absurd h (splitAt_ne_nil mark rest)
      | cons first others =>
        rw [h] at ih
        cases others <;> simp_all [joinWith]

/-- The components of a dotted text. -/
def components (s : List Char) : List (List Char) := splitAt '.' s

end LayeredSettings

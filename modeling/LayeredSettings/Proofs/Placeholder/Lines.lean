import LayeredSettings.Proofs.Placeholder.Grammar
import LayeredSettings.Text.Split

namespace LayeredSettings

/-- A placeholder with its positions moved on. -/
def Placeholder.shift (placeholder : Placeholder) (distance : Nat) : Placeholder :=
  { placeholder with start := placeholder.start + distance, stop := placeholder.stop + distance }

theorem Placeholder.shift_injective {p q : Placeholder} {distance : Nat} (same : p.shift distance = q.shift distance) :
    p = q := by
  obtain ⟨start, stop, reference⟩ := p
  obtain ⟨start', stop', reference'⟩ := q
  simp only [shift, Placeholder.mk.injEq, Nat.add_right_cancel_iff] at same
  obtain ⟨rfl, rfl, rfl⟩ := same
  rfl

/-- The number of characters that pieces are written with. -/
def piecesWidth (all : List Piece) : Nat := (all.flatMap Piece.text).length

variable {s line body after : List Char}

theorem flatMap_text_pieces (s : List Char) : (pieces s).flatMap Piece.text = s := by
  induction s using template_induction with
  | nil => simp [pieces]
  | hole s body after opens ih =>
    obtain ⟨_, whole⟩ := id opens
    rw [pieces_of_opens opens, List.flatMap_cons, ih, whole]
    simp [Piece.text]
  | char c rest plain ih =>
    rw [pieces_of_not_opens plain, List.flatMap_cons, ih]
    rfl

theorem piecesWidth_pieces (s : List Char) : piecesWidth (pieces s) = s.length := by
  rw [piecesWidth, flatMap_text_pieces]

theorem placeholdersFrom_append (start : Nat) (front back : List Piece) :
    placeholdersFrom start (front ++ back) =
      placeholdersFrom start front ++ placeholdersFrom (start + piecesWidth front) back := by
  induction front generalizing start with
  | nil => rfl
  | cons piece rest ih =>
    cases piece with
    | char c =>
      have width : start + 1 + piecesWidth rest = start + piecesWidth (.char c :: rest) := by
        simp [piecesWidth, Piece.text]
        omega
      rw [List.cons_append, placeholdersFrom, placeholdersFrom, ih, width]
    | hole body =>
      have width : start + body.length + 3 + piecesWidth rest = start + piecesWidth (.hole body :: rest) := by
        simp [piecesWidth, Piece.text]
        omega
      simp only [List.cons_append, placeholdersFrom, ih, width]

theorem placeholdersFrom_shift (start distance : Nat) (all : List Piece) :
    placeholdersFrom (start + distance) all = (placeholdersFrom start all).map (·.shift distance) := by
  induction all generalizing start with
  | nil => rfl
  | cons piece rest ih =>
    cases piece with
    | char c => rw [placeholdersFrom, placeholdersFrom, ← ih, Nat.add_right_comm]
    | hole body =>
      have stop : start + distance + body.length + 3 = start + body.length + 3 + distance := by omega
      simp only [placeholdersFrom, stop, ih, List.map_cons, Placeholder.shift]

/-- A placeholder at the beginning of a line ends on that line. -/
theorem Opens.on_line {rest : List Char} (opens : Opens (line ++ '\n' :: rest) body after) :
    ∃ behind, Opens line body behind := by
  obtain ⟨inside, whole⟩ := opens
  have shape : line ++ '\n' :: rest = ('$' :: '{' :: body ++ ['}']) ++ after := by simpa using whole
  rcases List.append_eq_append_iff.mp shape with ⟨more, written, left⟩ | ⟨more, written, _⟩
  · cases more with
    | nil => exact ⟨[], inside, by simpa using written.symm⟩
    | cons c others =>
      cases left
      have within : '\n' ∈ '$' :: '{' :: body ++ ['}'] := by simp [written]
      simp [inside.2] at within
  · exact ⟨more, inside, by simpa using written⟩

/-- A line is cut into pieces of its own, whatever follows it. -/
theorem pieces_line (free : '\n' ∉ line) (rest : List Char) :
    pieces (line ++ '\n' :: rest) = pieces line ++ .char '\n' :: pieces rest := by
  induction line using template_induction with
  | nil =>
    have plain (body after : List Char) : ¬ Opens ('\n' :: rest) body after := by
      rintro ⟨_, whole⟩
      cases whole
    rw [List.nil_append, pieces_of_not_opens plain]
    simp [pieces]
  | hole line body after opens ih =>
    obtain ⟨inside, whole⟩ := id opens
    have onward : Opens (line ++ '\n' :: rest) body (after ++ '\n' :: rest) := ⟨inside, by simp [whole]⟩
    have ended : '\n' ∉ after := fun member => free (by simp [whole, member])
    rw [pieces_of_opens onward, pieces_of_opens opens, ih ended, List.cons_append]
  | char c others plain ih =>
    have still (body after : List Char) : ¬ Opens (c :: (others ++ '\n' :: rest)) body after := by
      intro opens
      rw [← List.cons_append] at opens
      obtain ⟨behind, own⟩ := opens.on_line
      exact plain body behind own
    have ended : '\n' ∉ others := fun member => free (List.mem_cons_of_mem _ member)
    rw [List.cons_append, pieces_of_not_opens still, pieces_of_not_opens plain, ih ended, List.cons_append]

/-- The position in a text at which one of its lines begins. -/
def lineStart : List (List Char) → Nat → Nat
  | line :: rest, index + 1 => line.length + 1 + lineStart rest index
  | _, _ => 0

section Lines

variable {lines : List (List Char)} {index other : Nat}

@[simp] theorem lineStart_zero (lines : List (List Char)) : lineStart lines 0 = 0 := by
  cases lines <;> rfl

theorem lineStart_succ (line : List Char) (lines : List (List Char)) (index : Nat) :
    lineStart (line :: lines) (index + 1) = line.length + 1 + lineStart lines index := rfl

/-- A line begins behind the end of every earlier one. -/
theorem lineStart_lt (found : lines[index]? = some line) (later : index < other) :
    lineStart lines index + line.length < lineStart lines other := by
  induction lines generalizing index other with
  | nil => cases found
  | cons first rest ih =>
    cases other with
    | zero => omega
    | succ other =>
      rw [lineStart_succ]
      cases index with
      | zero =>
        simp only [List.getElem?_cons_zero, Option.some.injEq] at found
        subst found
        rw [lineStart_zero]
        omega
      | succ index =>
        have onward := ih (by simpa using found) (Nat.lt_of_succ_lt_succ later)
        rw [lineStart_succ]
        omega

/-- A line stands in its text at the position where it begins. -/
theorem exists_joinWith_eq (found : lines[index]? = some line) : ∃ front back,
    joinWith '\n' lines = front ++ (line ++ back) ∧ front.length = lineStart lines index := by
  induction lines generalizing index with
  | nil => cases found
  | cons first rest ih =>
    have joined : rest ≠ [] → joinWith '\n' (first :: rest) = first ++ '\n' :: joinWith '\n' rest := by
      intro more
      cases rest with
      | nil => exact absurd rfl more
      | cons => rfl
    cases index with
    | zero =>
      simp only [List.getElem?_cons_zero, Option.some.injEq] at found
      subst found
      by_cases more : rest = []
      · exact ⟨[], [], by simp [more, joinWith], by simp⟩
      · exact ⟨[], '\n' :: joinWith '\n' rest, joined more, by simp⟩
    | succ index =>
      have there : rest[index]? = some line := by simpa using found
      obtain ⟨front, back, whole, length⟩ := ih there
      have more : rest ≠ [] := by
        rintro rfl
        cases found
      refine ⟨first ++ '\n' :: front, back, ?_, ?_⟩
      · rw [joined more, whole]
        simp
      · rw [lineStart_succ, ← length, List.length_append, List.length_cons]
        omega

/-- The placeholders of a text are those of its lines. -/
theorem mem_placeholders_joinWith (some : lines ≠ []) (free : ∀ line ∈ lines, '\n' ∉ line) {start : Nat}
    {placeholder : Placeholder} : placeholder ∈ placeholdersFrom start (pieces (joinWith '\n' lines)) ↔
      ∃ index line, lines[index]? = Option.some line ∧
        ∃ own ∈ placeholdersFrom 0 (pieces line), placeholder = own.shift (start + lineStart lines index) := by
  induction lines generalizing start with
  | nil => exact absurd rfl some
  | cons first rest ih =>
    have here : placeholder ∈ placeholdersFrom start (pieces first) ↔
        ∃ own ∈ placeholdersFrom 0 (pieces first), placeholder = own.shift (start + lineStart (first :: rest) 0) := by
      have moved := placeholdersFrom_shift 0 start (pieces first)
      rw [Nat.zero_add] at moved
      simp [moved, eq_comm]
    cases rest with
    | nil =>
      rw [joinWith, here]
      constructor
      · exact fun found => ⟨0, first, rfl, found⟩
      · rintro ⟨index, line, found, own⟩
        cases index with
        | zero =>
          cases found
          exact own
        | succ index => cases found
    | cons next others =>
      have onward (start : Nat) := @ih (by simp) (fun line member => free line (List.mem_cons_of_mem _ member)) start
      have ended : placeholdersFrom (start + first.length) (.char '\n' :: pieces (joinWith '\n' (next :: others))) =
          placeholdersFrom (start + first.length + 1) (pieces (joinWith '\n' (next :: others))) := rfl
      have split := pieces_line (free first (List.mem_cons_self ..)) (joinWith '\n' (next :: others))
      rw [joinWith, split, placeholdersFrom_append, piecesWidth_pieces, ended, List.mem_append, onward, here]
      · constructor
        · rintro (own | ⟨index, line, found, own, member, same⟩)
          · exact ⟨0, first, rfl, own⟩
          · refine ⟨index + 1, line, found, own, member, ?_⟩
            rw [same, lineStart_succ]
            congr 1
            omega
        · rintro ⟨index, line, found, own, member, same⟩
          cases index with
          | zero =>
            cases found
            exact .inl ⟨own, member, same⟩
          | succ index =>
            refine .inr ⟨index, line, found, own, member, ?_⟩
            rw [same, lineStart_succ]
            congr 1
            omega
      · simp

end Lines

end LayeredSettings

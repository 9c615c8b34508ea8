import LayeredSettings.Editor.Position
import LayeredSettings.Proofs.Placeholder.Grammar

namespace LayeredSettings

variable {s front inside body : List Char} {start stop : Nat}

theorem afterLastOpening?_append (front inside : List Char) :
    afterLastOpening? (front ++ '$' :: '{' :: inside) = (afterLastOpening? inside).or (some inside) := by
  induction front using afterLastOpening?.induct with
  | case1 => rfl
  | case2 rest ih => simp [afterLastOpening?, ih]
  | case3 c rest plain ih =>
    have still : ∀ others, c = '$' → rest ++ '$' :: '{' :: inside = '{' :: others → False := by
      intro others dollar brace
      cases rest with
      | nil => cases brace
      | cons d rest => exact plain rest dollar (congrArg (· :: rest) (List.cons.inj brace).1)
    rw [List.cons_append, afterLastOpening?.eq_3 _ _ still, ih]

theorem eq_append_of_afterLastOpening? (found : afterLastOpening? s = some inside) :
    ∃ front, s = front ++ '$' :: '{' :: inside := by
  induction s using afterLastOpening?.induct with
  | case1 => cases found
  | case2 rest ih =>
    rw [afterLastOpening?] at found
    cases later : afterLastOpening? rest with
    | none =>
      rw [later] at found
      cases found
      exact ⟨[], rfl⟩
    | some other =>
      rw [later] at found
      cases found
      obtain ⟨front, rfl⟩ := ih later
      exact ⟨'$' :: '{' :: front, rfl⟩
  | case3 c rest plain ih =>
    rw [afterLastOpening?.eq_3 _ _ plain] at found
    obtain ⟨front, rfl⟩ := ih found
    exact ⟨c :: front, rfl⟩

theorem afterLastOpening?_eq_none_iff :
    afterLastOpening? s = none ↔ ∀ front inside, s ≠ front ++ '$' :: '{' :: inside := by
  constructor
  · rintro none front inside rfl
    rw [afterLastOpening?_append] at none
    cases later : afterLastOpening? inside <;> simp [later] at none
  · intro free
    cases found : afterLastOpening? s with
    | none => rfl
    | some inside =>
      obtain ⟨front, whole⟩ := eq_append_of_afterLastOpening? found
      exact absurd whole (free front inside)

/-- There is no opening behind the last one. -/
theorem afterLastOpening?_of_last (found : afterLastOpening? s = some inside) : afterLastOpening? inside = none := by
  obtain ⟨front, rfl⟩ := eq_append_of_afterLastOpening? found
  rw [afterLastOpening?_append] at found
  cases later : afterLastOpening? inside with
  | none => rfl
  | some last =>
    rw [later] at found
    cases found
    obtain ⟨between, whole⟩ := eq_append_of_afterLastOpening? later
    have length := congrArg List.length whole
    simp at length
    omega

theorem eq_append_of_openPlaceholder? (opened : openPlaceholder? s = some inside) :
    ∃ front, s = front ++ '$' :: '{' :: inside ∧ '}' ∉ inside := by
  obtain ⟨found, closed⟩ := Option.filter_eq_some_iff.mp opened
  obtain ⟨front, rfl⟩ := eq_append_of_afterLastOpening? found
  exact ⟨front, rfl, by simpa using closed⟩

/-- A placeholder is open at the end of a text where an opening is followed by no closing brace, be it the last
opening or not. -/
theorem openPlaceholder?_eq_none_iff :
    openPlaceholder? s = none ↔ ∀ front inside, s = front ++ '$' :: '{' :: inside → '}' ∈ inside := by
  constructor
  · rintro none front inside rfl
    refine Decidable.byContradiction fun free => ?_
    unfold openPlaceholder? at none
    rw [afterLastOpening?_append] at none
    cases later : afterLastOpening? inside with
    | none => simp [later, free] at none
    | some last =>
      obtain ⟨between, rfl⟩ := eq_append_of_afterLastOpening? later
      simp only [List.mem_append, List.mem_cons, not_or] at free
      simp [later, free.2.2.2] at none
  · intro closed
    cases opened : openPlaceholder? s with
    | none => rfl
    | some inside =>
      obtain ⟨front, rfl, free⟩ := eq_append_of_openPlaceholder? opened
      exact absurd (closed front inside rfl) free

/-- With a brace behind a text, what is written as a placeholder up to the end is what follows an opening. -/
theorem writtenAt_closed_iff : WrittenAt (s ++ ['}']) start (s.length + 1) body ↔
    IsBody body ∧ ∃ front, front.length = start ∧ s = front ++ '$' :: '{' :: body := by
  rw [writtenAt_iff]
  constructor
  · rintro ⟨size, after, inside, opens⟩
    have length := congrArg List.length opens
    simp only [List.length_drop, List.length_append, List.length_cons, List.length_nil] at length
    have ended : after = [] := List.length_eq_zero_iff.mp (by omega)
    subst ended
    rw [List.drop_append_of_le_length (by omega), List.cons_append, List.cons_append, ← List.cons_append,
      ← List.cons_append, List.append_cancel_right_eq] at opens
    exact ⟨inside, s.take start, by simp; omega, by rw [← opens, List.take_append_drop]⟩
  · rintro ⟨inside, front, rfl, rfl⟩
    refine ⟨by simp; omega, [], inside, ?_⟩
    simp

/-- A placeholder that goes on beyond an opening, where no closing brace follows in the text, ends with the brace
behind the text. -/
theorem WrittenAt.stop_eq (written : WrittenAt (s ++ ['}']) start stop body)
    (opening : s = front ++ '$' :: '{' :: inside) (free : '}' ∉ inside)
    (beyond : front.length < stop) : stop = s.length + 1 := by
  obtain ⟨size, after, _, opens⟩ := writtenAt_iff.mp written
  have within := written.within
  have brace : (s ++ ['}'])[start + (body.length + 2)]? = some '}' := by
    rw [← List.getElem?_drop, opens]
    simp
  rw [List.length_append, List.length_singleton] at within
  refine Nat.le_antisymm within (Nat.succ_le_of_lt (Nat.not_le.mp fun short => ?_))
  rw [List.getElem?_append_left (by omega), opening, List.getElem?_append_right (by omega)] at brace
  have member := List.mem_of_getElem? brace
  simp [free] at member

namespace Lists

variable {text : List Char} {list : List Placeholder} {placeholder : Placeholder}

/-- A placeholder that ends with the text is the last one. -/
theorem getLast?_eq (lists : Lists text start list) (member : placeholder ∈ list)
    (ends : placeholder.stop = text.length) : list.getLast? = some placeholder := by
  obtain ⟨front, back, rfl⟩ := List.append_of_mem member
  cases back with
  | nil => simp
  | cons next others =>
    have behind := List.rel_of_pairwise_cons (List.pairwise_append.mp lists.apart).2.1 (List.mem_cons_self ..)
    obtain ⟨_, _, written, _⟩ := lists.written next (by simp)
    have some := written.lt
    have within := written.within
    omega

/-- An opening that no closing brace follows is that of the last placeholder, or lies in it, once a brace has been put
behind the text. -/
theorem exists_last (lists : Lists (s ++ ['}']) 0 list) (line : '\n' ∉ s) (opening : s = front ++ '$' :: '{' :: inside)
    (free : '}' ∉ inside) :
    ∃ placeholder, list.getLast? = some placeholder ∧ placeholder.stop = s.length + 1 ∧
      placeholder.start ≤ front.length := by
  have own : IsBody inside := ⟨free, fun member => line (by simp [opening, member])⟩
  obtain ⟨placeholder, member, covers⟩ :=
    lists.covered _ _ _ (Nat.zero_le _) (writtenAt_closed_iff.mpr ⟨own, front, rfl, opening⟩)
  obtain ⟨_, body, written, _⟩ := lists.written placeholder member
  have some := written.lt
  have ends := written.stop_eq opening free (by omega)
  exact ⟨placeholder, lists.getLast?_eq member (by simp [ends]), ends, by omega⟩

/-- No opening is left open in front of the one that the last placeholder begins with, once a brace has been put behind
the text: it would be that of the last placeholder, or lie further inside. -/
theorem openPlaceholder?_before_last (lists : Lists (s ++ ['}']) 0 list) (line : '\n' ∉ s)
    (last : list.getLast? = some placeholder) (opening : s = front ++ '$' :: '{' :: inside) (free : '}' ∉ inside)
    (begins : placeholder.start = front.length) : openPlaceholder? front = none := by
  cases outer : openPlaceholder? front with
  | none => rfl
  | some between =>
    obtain ⟨before, rfl, apart⟩ := eq_append_of_openPlaceholder? outer
    obtain ⟨other, last', _, within⟩ := lists.exists_last line
      (by simpa using opening : s = before ++ '$' :: '{' :: (between ++ '$' :: '{' :: inside)) (by simp [apart, free])
    cases last.symm.trans last'
    simp at begins
    omega

/-- What the last placeholder is written as when it ends with the brace behind the text. -/
theorem opening_of_last (lists : Lists (s ++ ['}']) 0 list) (member : placeholder ∈ list)
    (ends : placeholder.stop = s.length + 1) :
    ∃ before body, before.length = placeholder.start ∧ s = before ++ '$' :: '{' :: body ∧ '}' ∉ body := by
  obtain ⟨_, body, written, _⟩ := lists.written placeholder member
  rw [ends] at written
  obtain ⟨inside, before, length, whole⟩ := writtenAt_closed_iff.mp written
  exact ⟨before, body, length, whole, inside.1⟩

end Lists

/-- Of two openings one begins behind the other. -/
theorem opening_behind {before : List Char} (first : s = before ++ '$' :: '{' :: body)
    (second : s = front ++ '$' :: '{' :: inside) (order : before.length < front.length) :
    ∃ between, front = before ++ '$' :: '{' :: between ∧ body = between ++ '$' :: '{' :: inside := by
  rcases List.append_eq_append_iff.mp (first.symm.trans second) with ⟨others, rfl, rest⟩ | ⟨others, rfl, _⟩
  · match others, rest with
    | [], _ => simp at order
    | [c], rest => simp at rest
    | c :: d :: between, rest =>
      simp only [List.cons_append, List.cons.injEq] at rest
      obtain ⟨rfl, rfl, rfl⟩ := rest
      exact ⟨between, rfl, rfl⟩
  · rw [List.length_append] at order
    omega

namespace Lists

variable {list : List Placeholder}

/-- Where nothing is left open in front of an opening, the last placeholder is the one that begins with it. -/
theorem exists_last_beginning (lists : Lists (s ++ ['}']) 0 list) (line : '\n' ∉ s)
    (opening : s = front ++ '$' :: '{' :: inside) (free : '}' ∉ inside) (none : openPlaceholder? front = none) :
    ∃ placeholder, list.getLast? = some placeholder ∧ placeholder.start = front.length ∧
      placeholder.stop = s.length + 1 ∧ RefersTo inside placeholder.reference := by
  obtain ⟨placeholder, last, ends, within⟩ := lists.exists_last line opening free
  obtain ⟨_, body, written, refers⟩ := lists.written placeholder (List.mem_of_getLast? last)
  rw [ends] at written
  obtain ⟨own, before, begins, first⟩ := writtenAt_closed_iff.mp written
  have start : placeholder.start = front.length := by
    refine Nat.le_antisymm within (Nat.not_lt.mp fun order => ?_)
    obtain ⟨between, ahead, rfl⟩ := opening_behind first opening (by omega)
    exact own.1 (List.mem_append_left _ (openPlaceholder?_eq_none_iff.mp none before between ahead))
  obtain ⟨rfl, same⟩ := List.append_inj (first.symm.trans opening) (begins.trans start)
  cases same
  exact ⟨placeholder, last, start, ends, refers⟩

end Lists

/-- The placeholder that is open at the end of a line is taken to begin with the last opening there: inside it there is
neither a closing brace nor another opening. A closing brace makes the placeholder that is found last end with it,
and this one begins with the first opening that is left open. That is the last opening of the line just where no
other placeholder is open in front of it, and one before it else. Where none is taken to be open, none ends with the
brace. -/
theorem closed_openPlaceholder (line : '\n' ∉ s) :
    (∀ inside, openPlaceholder? s = some inside → ∃ front, s = front ++ '$' :: '{' :: inside ∧
      '}' ∉ inside ∧ (∀ before after, inside ≠ before ++ '$' :: '{' :: after) ∧
      ∃ placeholder, (findPlaceholders (String.ofList (s ++ ['}']))).getLast? = some placeholder ∧
        placeholder.stop = s.length + 1 ∧ placeholder.start ≤ front.length ∧
        (∃ before body, placeholder.start = before.length ∧ s = before ++ '$' :: '{' :: body ∧ '}' ∉ body ∧
          openPlaceholder? before = none) ∧
        (placeholder.start = front.length ↔ openPlaceholder? front = none)) ∧
    (openPlaceholder? s = none →
      ∀ placeholder ∈ findPlaceholders (String.ofList (s ++ ['}'])), placeholder.stop ≠ s.length + 1) := by
  have lists := lists_findPlaceholders (String.ofList (s ++ ['}']))
  rw [String.toList_ofList] at lists
  refine ⟨fun inside opened => ?_, fun none placeholder member ends => ?_⟩
  · obtain ⟨front, whole, free⟩ := eq_append_of_openPlaceholder? opened
    obtain ⟨placeholder, last, ends, within⟩ := lists.exists_last line whole free
    obtain ⟨before, body, begins, opens, unclosed⟩ := lists.opening_of_last (List.mem_of_getLast? last) ends
    have first := lists.openPlaceholder?_before_last line last opens unclosed begins.symm
    have alone := afterLastOpening?_of_last (Option.filter_eq_some_iff.mp opened).1
    refine ⟨front, whole, free, afterLastOpening?_eq_none_iff.mp alone, placeholder, last, ends, within,
      ⟨before, body, begins.symm, opens, unclosed, first⟩, fun begins => ?_, fun none => ?_⟩
    · exact lists.openPlaceholder?_before_last line last whole free begins
    · obtain ⟨first, last', begins, _⟩ := lists.exists_last_beginning line whole free none
      cases last.symm.trans last'
      exact begins
  · obtain ⟨before, body, _, whole, closed⟩ := lists.opening_of_last member ends
    exact closed (openPlaceholder?_eq_none_iff.mp none before body whole)

/-- A closed placeholder in front of an open one. -/
def openLine : List Char := "$\x7ba\x7d\x7b$\x7bb".toList

/-- The open one is found last when a brace has been put behind it, and the text in front of it ends in none that is
open. -/
theorem closed_openPlaceholder_single : '\n' ∉ openLine ∧ openPlaceholder? openLine = some ['b'] ∧
    ∃ placeholder, (findPlaceholders (String.ofList (openLine ++ ['}']))).getLast? = some placeholder ∧
      placeholder.start = 5 ∧ placeholder.stop = 9 ∧
      ∀ earlier ∈ findPlaceholders "$\x7ba\x7d\x7b\x7d", earlier.stop ≠ 6 := by
  have line : '\n' ∉ openLine := by decide
  have opened : openPlaceholder? openLine = some ['b'] := by decide
  obtain ⟨opens, _⟩ := closed_openPlaceholder line
  obtain ⟨front, whole, _, _, placeholder, last, ends, _, _, begins⟩ := opens _ opened
  have parts : openLine = "$\x7ba\x7d\x7b".toList ++ ['$', '{', 'b'] := by decide
  obtain ⟨rfl, _⟩ := List.append_inj' (whole.symm.trans parts) rfl
  obtain ⟨_, closed⟩ := closed_openPlaceholder (by decide : '\n' ∉ "$\x7ba\x7d\x7b".toList)
  refine ⟨line, opened, placeholder, last, begins.mpr (by decide), ends, closed (by decide)⟩

/-- Where two openings are left open, the placeholder that is found begins with the first of them. -/
theorem closed_openPlaceholder_nested : ¬ ∀ s : List Char, '\n' ∉ s → ∀ inside, openPlaceholder? s = some inside →
    ∃ placeholder, (findPlaceholders (String.ofList (s ++ ['}']))).getLast? = some placeholder ∧
      placeholder.start = s.length - inside.length - 2 ∧ placeholder.stop = s.length + 1 := by
  intro claimed
  obtain ⟨placeholder, last, begins, _⟩ := claimed "$\x7ba$\x7bb".toList (by decide) ['b'] (by decide)
  have found : (findPlaceholders (String.ofList ("$\x7ba$\x7bb".toList ++ ['}']))).getLast? =
      some ⟨0, 7, ⟨.environment, "a$\x7bb"⟩⟩ := by decide +kernel
  rw [found] at last
  cases last
  simp at begins

end LayeredSettings

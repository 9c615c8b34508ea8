import LayeredSettings.Placeholder.Grammar

namespace LayeredSettings

/-- What can stand inside a placeholder: it neither closes the placeholder nor leaves the line. -/
def IsBody (body : List Char) : Prop := '}' ∉ body ∧ '\n' ∉ body

/-- A text begins with a placeholder, written with its inside, and goes on after it. -/
def Opens (s body after : List Char) : Prop := IsBody body ∧ s = '$' :: '{' :: body ++ '}' :: after

/-- The part of a text between two positions is written as a placeholder. -/
structure WrittenAt (text : List Char) (start stop : Nat) (body : List Char) : Prop where
  within : stop ≤ text.length
  slice : text.extract start stop = '$' :: '{' :: body ++ ['}']
  inside : IsBody body

/-- A name is what remains of a text without one leading point or colon. -/
def IsName (rest name : List Char) : Prop :=
  rest = '.' :: name ∨ rest = ':' :: name ∨ rest = name ∧ ∀ c ∈ rest.head?, c ≠ '.' ∧ c ≠ ':'

/-- What the inside of a placeholder refers to: a name in the source whose tag it begins with, and a name of
the environment if it begins with no tag. -/
inductive RefersTo (body : List Char) : Reference → Prop
  | tagged {source : Source} {rest : List Char} {name : String} :
      body = source.tag.toList ++ rest → IsName rest name.toList → RefersTo body ⟨source, name⟩
  | bare {name : String} :
      (∀ source : Source, ¬ source.tag.toList <+: body) → IsName body name.toList →
      RefersTo body ⟨.environment, name⟩

/-- The placeholders of a text from a position on. They stand in order and apart, each is written in the text
with an inside that gives its reference, and wherever one is written, one begins or goes on. -/
structure Lists (text : List Char) (origin : Nat) (list : List Placeholder) : Prop where
  apart : list.Pairwise fun earlier later => earlier.stop ≤ later.start
  written : ∀ placeholder ∈ list, origin ≤ placeholder.start ∧ ∃ body,
    WrittenAt text placeholder.start placeholder.stop body ∧ RefersTo body placeholder.reference
  covered : ∀ start stop body, origin ≤ start → WrittenAt text start stop body →
    ∃ placeholder ∈ list, start = placeholder.start ∨ placeholder.start < start ∧ start < placeholder.stop

variable {s body body' after after' text : List Char} {start stop stop' origin : Nat}

theorem isBody_cons {c : Char} : IsBody (c :: body) ↔ c ≠ '}' ∧ c ≠ '\n' ∧ IsBody body := by
  simp only [IsBody, List.mem_cons, not_or, ne_eq]
  constructor
  · rintro ⟨⟨brace, closed⟩, newline, line⟩
    exact ⟨Ne.symm brace, Ne.symm newline, closed, line⟩
  · rintro ⟨brace, newline, closed, line⟩
    exact ⟨⟨Ne.symm brace, closed⟩, Ne.symm newline, line⟩

theorem closing?_append (inside : IsBody body) (after : List Char) :
    closing? (body ++ '}' :: after) = some (body, after) := by
  induction body with
  | nil => simp [closing?]
  | cons c rest ih =>
    obtain ⟨brace, line, inside⟩ := isBody_cons.mp inside
    simp [closing?, brace, line, ih inside]

theorem isBody_of_closing? (closed : closing? s = some (body, after)) : IsBody body := by
  induction s generalizing body with
  | nil => simp [closing?] at closed
  | cons c rest ih =>
    rw [closing?] at closed
    split at closed
    · cases closed
      simp [IsBody]
    · next brace =>
      split at closed
      · cases closed
      · next line =>
        obtain ⟨⟨front, back⟩, found, same⟩ := Option.map_eq_some_iff.mp closed
        cases same
        exact isBody_cons.mpr ⟨brace, line, ih found⟩

theorem pieces_of_opens (opens : Opens s body after) : pieces s = .hole body :: pieces after := by
  obtain ⟨inside, rfl⟩ := opens
  have closed := closing?_append inside after
  simp only [List.cons_append]
  rw [pieces]
  split
  · next found =>
    rw [closed] at found
    cases found
    rfl
  · next none =>
    rw [closed] at none
    cases none

theorem pieces_of_not_opens {c : Char} {rest : List Char} (plain : ∀ body after, ¬ Opens (c :: rest) body after) :
    pieces (c :: rest) = .char c :: pieces rest := by
  by_cases opening : ∃ inside, c = '$' ∧ rest = '{' :: inside
  · obtain ⟨inside, rfl, rfl⟩ := opening
    rw [pieces]
    split
    · next body after found =>
      refine absurd ⟨isBody_of_closing? found, ?_⟩ (plain body after)
      rw [eq_append_of_closing? found]
      rfl
    · rfl
  · rw [pieces]
    intro inside dollar brace
    exact opening ⟨inside, dollar, brace⟩

theorem Opens.length_lt (opens : Opens s body after) : after.length < s.length := by
  rw [opens.2]
  simp only [List.cons_append, List.length_cons, List.length_append]
  omega

theorem Opens.drop_eq (opens : Opens s body after) : s.drop (body.length + 3) = after := by
  rw [opens.2]
  simp [List.drop_append]

/-- A text is empty, or it begins with a placeholder, or its first character stands for itself. -/
@[elab_as_elim]
theorem template_induction {motive : List Char → Prop} (nil : motive [])
    (hole : ∀ s body after, Opens s body after → motive after → motive s)
    (char : ∀ c rest, (∀ body after, ¬ Opens (c :: rest) body after) → motive rest → motive (c :: rest))
    (s : List Char) : motive s := by
  by_cases opening : ∃ body after, Opens s body after
  · obtain ⟨body, after, opens⟩ := opening
    have shorter := opens.length_lt
    exact hole s body after opens (template_induction nil hole char after)
  · cases s with
    | nil => exact nil
    | cons c rest =>
      exact char c rest (fun body after opens => opening ⟨body, after, opens⟩)
        (template_induction nil hole char rest)
termination_by s.length

theorem Opens.unique (opens : Opens s body after) (opens' : Opens s body' after') : body = body' := by
  obtain ⟨inside, rfl⟩ := opens
  obtain ⟨inside', same⟩ := opens'
  simp only [List.cons_append, List.cons.injEq, true_and] at same
  have found := closing?_append inside after
  rw [same, closing?_append inside' after'] at found
  cases found
  rfl

theorem writtenAt_iff : WrittenAt text start stop body ↔
    stop = start + body.length + 3 ∧ ∃ after, Opens (text.drop start) body after := by
  constructor
  · rintro ⟨within, slice, inside⟩
    have length := congrArg List.length slice
    have whole := List.take_append_drop (stop - start) (text.drop start)
    simp only [List.length_take, List.length_drop, List.length_append, List.length_cons, List.length_nil] at length
    rw [← List.extract_eq_take_drop, slice] at whole
    exact ⟨by omega, (text.drop start).drop (stop - start), inside, whole.symm.trans (by simp)⟩
  · rintro ⟨rfl, after, inside, opens⟩
    have length := congrArg List.length opens
    simp only [List.length_drop, List.length_append, List.length_cons] at length
    refine ⟨by omega, ?_, inside⟩
    have shape : '$' :: '{' :: body ++ '}' :: after = ('$' :: '{' :: body ++ ['}']) ++ after := by simp
    have size : start + body.length + 3 - start = ('$' :: '{' :: body ++ ['}']).length := by simp; omega
    rw [List.extract_eq_take_drop, opens, shape, size, List.take_left']
    rfl

theorem WrittenAt.unique (written : WrittenAt text start stop body) (written' : WrittenAt text start stop' body') :
    stop = stop' ∧ body = body' := by
  obtain ⟨rfl, after, opens⟩ := writtenAt_iff.mp written
  obtain ⟨rfl, after', opens'⟩ := writtenAt_iff.mp written'
  cases opens.unique opens'
  exact ⟨rfl, rfl⟩

theorem isName_iff {rest name : List Char} : IsName rest name ↔ name = dropSeparator rest := by
  unfold dropSeparator
  split
  · simp [IsName, eq_comm]
  · simp [IsName, eq_comm]
  · next point colon =>
    cases rest with
    | nil => simp [IsName, eq_comm]
    | cons c rest =>
      have other : c ≠ '.' ∧ c ≠ ':' :=
        ⟨fun same => point rest (same ▸ rfl), fun same => colon rest (same ▸ rfl)⟩
      simp [IsName, other, eq_comm]

theorem leadingTag?_eq_some_iff {source : Source} {rest : List Char} :
    leadingTag? body = some (source, rest) ↔ body = source.tag.toList ++ rest := by
  constructor
  · intro found
    obtain ⟨own, _, tagged⟩ := List.exists_of_findSome?_eq_some found
    dsimp only at tagged
    split at tagged
    · next leads =>
      obtain ⟨tail, rfl⟩ := List.isPrefixOf_iff_prefix.mp leads
      cases tagged
      simp
    · cases tagged
  · rintro rfl
    cases source <;> rfl

theorem leadingTag?_eq_none_iff : leadingTag? body = none ↔ ∀ source : Source, ¬ source.tag.toList <+: body := by
  constructor
  · rintro none source ⟨rest, rfl⟩
    rw [leadingTag?_eq_some_iff.mpr rfl] at none
    cases none
  · intro bare
    cases found : leadingTag? body with
    | none => rfl
    | some pair => exact absurd ⟨pair.2, (leadingTag?_eq_some_iff.mp found).symm⟩ (bare pair.1)

theorem refersTo_iff {reference : Reference} : RefersTo body reference ↔ reference = .ofBody body := by
  unfold Reference.ofBody
  constructor
  · rintro (⟨tag, name⟩ | ⟨bare, name⟩)
    · rw [leadingTag?_eq_some_iff.mpr tag]
      simp [← isName_iff.mp name]
    · rw [leadingTag?_eq_none_iff.mpr bare]
      simp [← isName_iff.mp name]
  · rintro rfl
    split
    · next source rest tag =>
      exact .tagged (leadingTag?_eq_some_iff.mp tag) (isName_iff.mpr (by simp))
    · next none => exact .bare (leadingTag?_eq_none_iff.mp none) (isName_iff.mpr (by simp))

theorem WrittenAt.lt (written : WrittenAt text start stop body) : start < stop := by
  have whole := (writtenAt_iff.mp written).1
  omega

namespace Lists

variable {list list' : List Placeholder} {placeholder : Placeholder}

theorem at_end (ended : text.drop origin = []) : Lists text origin [] where
  apart := .nil
  written := by simp
  covered := by
    intro start stop body behind written
    have short := written.within
    have whole := written.lt
    have all := List.drop_eq_nil_iff.mp ended
    omega

theorem hole (opens : Opens (text.drop origin) body after)
    (onward : Lists text (origin + body.length + 3) list) :
    Lists text origin (⟨origin, origin + body.length + 3, .ofBody body⟩ :: list) where
  apart := List.pairwise_cons.mpr ⟨fun later member => (onward.written later member).1, onward.apart⟩
  written := by
    intro placeholder member
    rcases List.mem_cons.mp member with rfl | member
    · exact ⟨Nat.le_refl _, body, writtenAt_iff.mpr ⟨rfl, after, opens⟩, refersTo_iff.mpr rfl⟩
    · obtain ⟨behind, written⟩ := onward.written placeholder member
      exact ⟨by omega, written⟩
  covered := by
    intro start stop inside behind written
    by_cases beyond : origin + body.length + 3 ≤ start
    · obtain ⟨placeholder, member, covers⟩ := onward.covered start stop inside beyond written
      exact ⟨placeholder, List.mem_cons_of_mem _ member, covers⟩
    · exact ⟨_, List.mem_cons_self .., by dsimp only; omega⟩

theorem char (plain : ∀ body after, ¬ Opens (text.drop origin) body after)
    (onward : Lists text (origin + 1) list) : Lists text origin list where
  apart := onward.apart
  written := by
    intro placeholder member
    obtain ⟨behind, written⟩ := onward.written placeholder member
    exact ⟨by omega, written⟩
  covered := by
    intro start stop body behind written
    rcases Nat.eq_or_lt_of_le behind with rfl | beyond
    · obtain ⟨after, opens⟩ := (writtenAt_iff.mp written).2
      exact absurd opens (plain body after)
    · exact onward.covered start stop body beyond written

/-- Nothing is written as a placeholder before the first one of the list. -/
theorem head_le (lists : Lists text origin (placeholder :: list)) (behind : origin ≤ start)
    (written : WrittenAt text start stop body) : placeholder.start ≤ start := by
  obtain ⟨covering, member, covers⟩ := lists.covered start stop body behind written
  rcases List.mem_cons.mp member with rfl | later
  · omega
  · have order := List.rel_of_pairwise_cons lists.apart later
    obtain ⟨_, _, own, _⟩ := lists.written placeholder (List.mem_cons_self ..)
    have size := own.lt
    omega

theorem tail (lists : Lists text origin (placeholder :: list)) : Lists text placeholder.stop list where
  apart := lists.apart.of_cons
  written := fun later member =>
    ⟨List.rel_of_pairwise_cons lists.apart member, (lists.written later (List.mem_cons_of_mem _ member)).2⟩
  covered := by
    intro start stop body beyond written
    obtain ⟨behind, _, own, _⟩ := lists.written placeholder (List.mem_cons_self ..)
    have size := own.lt
    obtain ⟨covering, member, covers⟩ := lists.covered start stop body (by omega) written
    rcases List.mem_cons.mp member with rfl | later
    · omega
    · exact ⟨covering, later, covers⟩

theorem ne_nil_of_written (lists : Lists text origin list) (behind : origin ≤ start)
    (written : WrittenAt text start stop body) : list ≠ [] := by
  rintro rfl
  obtain ⟨_, member, _⟩ := lists.covered start stop body behind written
  cases member

/-- A text has one list of placeholders only. -/
theorem unique (lists : Lists text origin list) (lists' : Lists text origin list') : list = list' := by
  induction list generalizing origin list' with
  | nil =>
    cases list' with
    | nil => rfl
    | cons other rest' =>
      obtain ⟨behind, _, own, _⟩ := lists'.written other (List.mem_cons_self ..)
      exact absurd rfl (lists.ne_nil_of_written behind own)
  | cons placeholder rest ih =>
    obtain ⟨behind, body, own, refers⟩ := lists.written placeholder (List.mem_cons_self ..)
    cases list' with
    | nil => exact absurd rfl (lists'.ne_nil_of_written behind own)
    | cons other rest' =>
      obtain ⟨behind', body', own', refers'⟩ := lists'.written other (List.mem_cons_self ..)
      obtain ⟨start, stop, reference⟩ := placeholder
      obtain ⟨start', stop', reference'⟩ := other
      -- In each list the first placeholder begins no later than the one the other list begins with.
      have starts : start = start' := Nat.le_antisymm (lists.head_le behind' own') (lists'.head_le behind own)
      subst starts
      obtain ⟨rfl, rfl⟩ := own.unique own'
      have references : reference = reference' := (refersTo_iff.mp refers).trans (refersTo_iff.mp refers').symm
      subst references
      rw [ih lists.tail lists'.tail]

end Lists

/-- The scan of a text from a position on finds the placeholders there. -/
theorem lists_placeholdersFrom (text : List Char) (origin : Nat) :
    Lists text origin (placeholdersFrom origin (pieces (text.drop origin))) := by
  generalize rest : text.drop origin = s
  induction s using template_induction generalizing origin with
  | nil =>
    rw [pieces]
    exact .at_end rest
  | hole s body after opens ih =>
    rw [pieces_of_opens opens]
    refine .hole (rest ▸ opens) (ih _ ?_)
    rw [Nat.add_assoc, ← List.drop_drop, rest, opens.drop_eq]
  | char c inner plain ih =>
    rw [pieces_of_not_opens plain]
    refine .char (rest ▸ plain) (ih _ ?_)
    rw [← List.drop_drop, rest]
    rfl

theorem lists_findPlaceholders (text : String) : Lists text.toList 0 (findPlaceholders text) :=
  lists_placeholdersFrom text.toList 0

theorem findPlaceholders_of_body (inside : IsBody body) :
    findPlaceholders (String.ofList ('$' :: '{' :: body ++ ['}'])) = [⟨0, body.length + 3, .ofBody body⟩] := by
  have opens : Opens ('$' :: '{' :: body ++ ['}']) body [] := ⟨inside, rfl⟩
  rw [findPlaceholders, String.toList_ofList, pieces_of_opens opens, pieces]
  simp [placeholdersFrom]

/-- A reference as a placeholder with its tag. -/
def Reference.template (reference : Reference) : String :=
  "$\x7b" ++ reference.source.tag ++ ":" ++ reference.name ++ "\x7d"

theorem findPlaceholders_template {reference : Reference} (inside : IsBody reference.name.toList) :
    findPlaceholders reference.template = [⟨0, reference.template.length, reference⟩] := by
  obtain ⟨source, name⟩ := reference
  have shape : Reference.template ⟨source, name⟩ =
      String.ofList ('$' :: '{' :: (source.tag.toList ++ ':' :: name.toList) ++ ['}']) := by
    rw [← String.toList_inj]
    simp [Reference.template]
  have body : IsBody (source.tag.toList ++ ':' :: name.toList) := by
    obtain ⟨closed, line⟩ := inside
    cases source <;> simp [IsBody, Source.tag, closed, line]
  have refers : RefersTo (source.tag.toList ++ ':' :: name.toList) ⟨source, name⟩ := .tagged rfl (.inr (.inl rfl))
  have length : (Reference.template ⟨source, name⟩).length = (source.tag.toList ++ ':' :: name.toList).length + 3 := by
    rw [shape, ← String.length_toList, String.toList_ofList]
    simp only [List.length_append, List.length_cons, List.length_nil]
  rw [length, shape, findPlaceholders_of_body body, ← refersTo_iff.mp refers]

/-- The placeholders found in a text are the one list of placeholders it has, and each of them read alone is a
single placeholder, from its beginning to its end, with the same reference. -/
theorem findPlaceholders_grammar (text : String) :
    (∀ list, list = findPlaceholders text ↔ Lists text.toList 0 list) ∧
      ∀ placeholder ∈ findPlaceholders text,
        findPlaceholders (String.ofList (text.toList.extract placeholder.start placeholder.stop)) =
          [⟨0, placeholder.stop - placeholder.start, placeholder.reference⟩] := by
  have lists := lists_findPlaceholders text
  refine ⟨fun list => ⟨fun found => found ▸ lists, fun lists' => lists'.unique lists⟩, fun placeholder member => ?_⟩
  obtain ⟨_, body, written, refers⟩ := lists.written placeholder member
  have size := (writtenAt_iff.mp written).1
  rw [written.slice, findPlaceholders_of_body written.inside, ← refersTo_iff.mp refers,
    show placeholder.stop - placeholder.start = body.length + 3 by omega]

/-- A placeholder with an opening inside it, an opening left open by its line, and a setting. -/
def nestedTemplate : String := "a$\x7benv:X$\x7bb\x7d\n$\x7bc\n$\x7bconfig.K\x7d"

/-- The first placeholder in it. -/
def nestedPlaceholder : Placeholder := ⟨1, 12, ⟨.environment, "X$\x7bb"⟩⟩

/-- Two placeholders stand in it, and the first read alone is still one. -/
theorem findPlaceholders_nested :
    Lists nestedTemplate.toList 0 [nestedPlaceholder, ⟨17, 28, ⟨.setting, "K"⟩⟩] ∧
      nestedPlaceholder ∈ findPlaceholders nestedTemplate ∧
      findPlaceholders (String.ofList (nestedTemplate.toList.extract nestedPlaceholder.start nestedPlaceholder.stop)) =
        [⟨0, nestedPlaceholder.stop - nestedPlaceholder.start, nestedPlaceholder.reference⟩] := by
  have found : findPlaceholders nestedTemplate = [nestedPlaceholder, ⟨17, 28, ⟨.setting, "K"⟩⟩] := by
    decide +kernel
  have member : nestedPlaceholder ∈ findPlaceholders nestedTemplate := by simp [found]
  obtain ⟨only, alone⟩ := findPlaceholders_grammar nestedTemplate
  exact ⟨(only _).mp found.symm, member, alone _ member⟩

end LayeredSettings

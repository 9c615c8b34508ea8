import LayeredSettings.Proofs.Placeholder.Splicing
import LayeredSettings.Proofs.Placeholder.Stability

namespace LayeredSettings

/-- A text that takes part in no opening, wherever it is inserted: it is not empty, and neither a dollar sign nor
an opening brace is in it. -/
def Inert (value : List Char) : Prop := value ≠ [] ∧ '$' ∉ value ∧ '{' ∉ value

instance (value : List Char) : Decidable (Inert value) := inferInstanceAs (Decidable (_ ∧ _ ∧ _))

/-- How a placeholder is written, and what it refers to. -/
def Placeholder.shown (text : List Char) (placeholder : Placeholder) : List Char × Reference :=
  (placeholder.slice text, placeholder.reference)

/-- How a piece is written if it is a placeholder, and what it refers to. -/
def Piece.shown? : Piece → Option (List Char × Reference)
  | .char _ => none
  | .hole body => some ((Piece.hole body).text, .ofBody body)

/-- What is read of a piece when it has been filled: the piece itself where it is kept, and plain characters where
something else has been inserted. -/
def Piece.filled (fill : Piece → List Char) (piece : Piece) : List Piece :=
  if fill piece = piece.text then [piece] else (fill piece).map .char

/-- The pieces of a text are filled with inert texts: characters stand for themselves, and a placeholder is kept if
nothing is inserted for it. -/
structure FillsInertly (fill : Piece → List Char) (s : List Char) : Prop where
  char : ∀ c, fill (.char c) = [c]
  hole : ∀ body, .hole body ∈ pieces s → fill (.hole body) = (Piece.hole body).text ∨ Inert (fill (.hole body))

theorem opens_of_closing? {inner body after : List Char} (closed : closing? inner = some (body, after)) :
    Opens ('$' :: '{' :: inner) body after :=
  ⟨isBody_of_closing? closed, by rw [eq_append_of_closing? closed]; rfl⟩

theorem Opens.closing?_isSome {s body after : List Char} (opens : Opens s body after) : (closing? s).isSome = true := by
  obtain ⟨⟨closed, line⟩, rfl⟩ := opens
  have inside : IsBody ('$' :: '{' :: body) := by simp [IsBody, closed, line]
  rw [closing?_append inside after]
  rfl

/-- The placeholders of a text are the pieces of it that are no characters. -/
theorem map_shown_placeholdersFrom (text : List Char) (origin : Nat) :
    (placeholdersFrom origin (pieces (text.drop origin))).map (·.shown text) =
      (pieces (text.drop origin)).filterMap Piece.shown? := by
  generalize rest : text.drop origin = s
  induction s using template_induction generalizing origin with
  | nil => simp [pieces, placeholdersFrom]
  | hole s body after opens ih =>
    have onward : text.drop (origin + body.length + 3) = after := by
      rw [Nat.add_assoc, ← List.drop_drop, rest, opens.drop_eq]
    have written : WrittenAt text origin (origin + body.length + 3) body :=
      writtenAt_iff.mpr ⟨rfl, after, rest ▸ opens⟩
    have slice : Placeholder.slice text ⟨origin, origin + body.length + 3, .ofBody body⟩ = (Piece.hole body).text :=
      written.slice
    simp only [pieces_of_opens opens, placeholdersFrom, List.map_cons, List.filterMap_cons, Piece.shown?,
      Placeholder.shown, slice]
    exact congrArg _ (ih _ onward)
  | char c inner plain ih =>
    have onward : text.drop (origin + 1) = inner := by rw [← List.drop_drop, rest]; rfl
    rw [pieces_of_not_opens plain, placeholdersFrom, List.filterMap_cons, Piece.shown?, ih _ onward]

theorem map_shown_findPlaceholders (text : String) :
    (findPlaceholders text).map (·.shown text.toList) = (pieces text.toList).filterMap Piece.shown? :=
  map_shown_placeholdersFrom text.toList 0

namespace FillsInertly

variable {fill : Piece → List Char} {s body after rest : List Char} {c : Char}

theorem after_hole (fills : FillsInertly fill s) (opens : Opens s body after) : FillsInertly fill after where
  char := fills.char
  hole other member := fills.hole other (by simp [pieces_of_opens opens, member])

theorem after_char (fills : FillsInertly fill (c :: rest)) (plain : ∀ body after, ¬ Opens (c :: rest) body after) :
    FillsInertly fill rest where
  char := fills.char
  hole other member := fills.hole other (by simp [pieces_of_not_opens plain, member])

/-- Where the line of a text holds no closing brace, it holds none when the placeholders have been filled. -/
theorem unclosed (fills : FillsInertly fill s) (unclosed : closing? s = none) :
    closing? ((pieces s).flatMap fill) = none := by
  induction s using template_induction with
  | nil => simpa [pieces] using unclosed
  | hole s body after opens _ =>
    have closed := opens.closing?_isSome
    rw [unclosed] at closed
    cases closed
  | char c rest plain ih =>
    rw [closing?] at unclosed
    simp only [pieces_of_not_opens plain, List.flatMap_cons, fills.char, List.singleton_append, closing?]
    split at unclosed
    · cases unclosed
    · next brace =>
      rw [if_neg brace]
      split at unclosed
      · next line => rw [if_pos line]
      · next line =>
        rw [if_neg line, ih (fills.after_char plain) (by simpa using unclosed)]
        rfl

/-- An opening brace that comes first has come first before. -/
theorem brace_first (fills : FillsInertly fill s) (begins : (pieces s).flatMap fill = '{' :: rest) :
    ∃ inner, s = '{' :: inner := by
  induction s using template_induction with
  | nil => simp [pieces] at begins
  | hole s body after opens _ =>
    rw [pieces_of_opens opens, List.flatMap_cons] at begins
    rcases fills.hole body (by simp [pieces_of_opens opens]) with kept | ⟨some, _, brace⟩
    · rw [kept] at begins
      cases begins
    · obtain ⟨c, others, value⟩ := List.exists_cons_of_ne_nil some
      rw [value, List.cons_append, List.cons.injEq] at begins
      exact absurd (by simp [value, begins.1]) brace
  | char c others plain _ =>
    rw [pieces_of_not_opens plain, List.flatMap_cons, fills.char] at begins
    exact ⟨others, congrArg (· :: others) (List.cons.inj begins).1⟩

/-- A character in front of which no placeholder begins does not come to begin one. -/
theorem not_opens (fills : FillsInertly fill (c :: rest)) (plain : ∀ body after, ¬ Opens (c :: rest) body after)
    (body after : List Char) : ¬ Opens (c :: (pieces rest).flatMap fill) body after := by
  rintro ⟨inside, whole⟩
  obtain ⟨rfl, opened⟩ : c = '$' ∧ (pieces rest).flatMap fill = '{' :: (body ++ '}' :: after) := List.cons.inj whole
  -- The brace of the opening is an old one, so its line would have been closed before as well.
  obtain ⟨inner, rfl⟩ := (fills.after_char plain).brace_first opened
  have brace (b a : List Char) : ¬ Opens ('{' :: inner) b a := fun opens => nomatch opens.2
  have still : closing? inner = none := by
    cases closed : closing? inner with
    | none => rfl
    | some parts => exact absurd (opens_of_closing? closed) (plain parts.1 parts.2)
  have closed := closing?_append inside after
  rw [pieces_of_not_opens brace, List.flatMap_cons, fills.char, List.singleton_append, List.cons.injEq] at opened
  rw [← opened.2, ((fills.after_char plain).after_char brace).unclosed still] at closed
  cases closed

/-- No placeholder arises where inert texts are inserted: those that are kept are read as before, and all else is
plain. -/
theorem pieces_eq (fills : FillsInertly fill s) :
    pieces ((pieces s).flatMap fill) = (pieces s).flatMap (Piece.filled fill) := by
  induction s using template_induction with
  | nil => simp [pieces]
  | hole s body after opens ih =>
    rw [pieces_of_opens opens, List.flatMap_cons, List.flatMap_cons, ← ih (fills.after_hole opens), Piece.filled]
    rcases fills.hole body (by simp [pieces_of_opens opens]) with kept | ⟨_, dollar, _⟩
    · have again : Opens ((Piece.hole body).text ++ (pieces after).flatMap fill) body ((pieces after).flatMap fill) :=
        ⟨opens.1, by simp [Piece.text]⟩
      rw [if_pos kept, kept, pieces_of_opens again]
      rfl
    · have changed : fill (.hole body) ≠ (Piece.hole body).text := fun kept => dollar (by simp [kept, Piece.text])
      rw [if_neg changed, pieces_append dollar]
  | char c rest plain ih =>
    have kept : fill (.char c) = (Piece.char c).text := fills.char c
    rw [pieces_of_not_opens plain, List.flatMap_cons, List.flatMap_cons, ← ih (fills.after_char plain), Piece.filled,
      if_pos kept, fills.char, List.singleton_append, pieces_of_not_opens (fills.not_opens plain)]
    rfl

/-- To fill a text again changes nothing. -/
theorem flatMap_again (fills : FillsInertly fill s) :
    (pieces ((pieces s).flatMap fill)).flatMap fill = (pieces s).flatMap fill := by
  have once (piece : Piece) : (piece.filled fill).flatMap fill = fill piece := by
    unfold Piece.filled
    split
    · simp
    · simp [List.flatMap_map, fills.char]
  simp only [fills.pieces_eq, List.flatMap_assoc, once]

end FillsInertly

theorem filterMap_filled {fill : Piece → List Char} {kept : List Char × Reference → Bool} {all : List Piece}
    (keeps : ∀ body, .hole body ∈ all →
      (kept ((Piece.hole body).text, .ofBody body) = true ↔ fill (.hole body) = (Piece.hole body).text)) :
    (all.flatMap (Piece.filled fill)).filterMap Piece.shown? = (all.filterMap Piece.shown?).filter kept := by
  have plain (value : List Char) : (value.map Piece.char).filterMap Piece.shown? = [] := by
    simp [List.filterMap_eq_nil_iff, Piece.shown?]
  induction all with
  | nil => rfl
  | cons piece rest ih =>
    have onward := ih fun body member => keeps body (List.mem_cons_of_mem _ member)
    rw [List.flatMap_cons, List.filterMap_append, onward]
    cases piece with
    | char c =>
      unfold Piece.filled
      split
      · rfl
      · rw [plain]
        rfl
    | hole body =>
      have own := keeps body (List.mem_cons_self ..)
      simp only [List.filterMap_cons, Piece.shown?, List.filter_cons, own, Piece.filled]
      split
      · rfl
      · rw [plain]
        rfl

/-- Where a second step changes nothing, there are two steps at most. -/
theorem orbit_of_settled {α : Type} [DecidableEq α] {step : α → α} {x : α} (settled : step (step x) = step x)
    {limit : Nat} (positive : 0 < limit) :
    orbit step limit [x] x = if step x = x ∨ limit = 1 then [step x] else [step x, step x] := by
  obtain ⟨limit, rfl⟩ := Nat.exists_eq_succ_of_ne_zero positive.ne'
  cases limit with
  | zero => simp [orbit]
  | succ limit => simp [orbit, settled]

namespace Context

variable (context : Context) (overrides : Entries String EnvOverride) (text : String)

/-- Every value that a placeholder of a text has is inert. -/
def InsertsInert : Prop :=
  ∀ placeholder ∈ findPlaceholders text, ∀ value ∈ context.valueIn? overrides text text.toList placeholder,
    Inert value.toList

instance : Decidable (context.InsertsInert overrides text) := inferInstanceAs (Decidable (∀ _ ∈ _, _))

/-- The value of a placeholder by how it is written and what it refers to. -/
def shownValue? (shown : List Char × Reference) : Option String :=
  context.lookup? overrides (decide (shown.1 = text.toList)) shown.2

theorem fill_hole (body : List Char) : context.fill overrides text.toList (.hole body) =
    (context.shownValue? overrides text ((Piece.hole body).text, .ofBody body)).elim
      (Piece.hole body).text String.toList := by
  simp only [fill, shownValue?]
  cases context.lookup? overrides (decide ((Piece.hole body).text = text.toList)) (.ofBody body) <;> rfl

namespace InsertsInert

variable {context overrides text}

theorem inert_of_mem (inserts : context.InsertsInert overrides text) {body : List Char}
    (member : .hole body ∈ pieces text.toList) {value : String}
    (found : context.shownValue? overrides text ((Piece.hole body).text, .ofBody body) = some value) :
    Inert value.toList := by
  have shown : ((Piece.hole body).text, Reference.ofBody body) ∈ (pieces text.toList).filterMap Piece.shown? :=
    List.mem_filterMap.mpr ⟨_, member, rfl⟩
  rw [← map_shown_findPlaceholders] at shown
  obtain ⟨placeholder, there, same⟩ := List.mem_map.mp shown
  rw [← same] at found
  exact inserts placeholder there value found

theorem fillsInertly (inserts : context.InsertsInert overrides text) :
    FillsInertly (context.fill overrides text.toList) text.toList where
  char _ := rfl
  hole body member := by
    rw [fill_hole]
    cases found : context.shownValue? overrides text ((Piece.hole body).text, .ofBody body) with
    | none => exact .inl rfl
    | some value => exact .inr (inserts.inert_of_mem member found)

/-- A placeholder stays as it is written just where it has no value. -/
theorem isNone_iff (inserts : context.InsertsInert overrides text) {body : List Char}
    (member : .hole body ∈ pieces text.toList) :
    (context.shownValue? overrides text ((Piece.hole body).text, .ofBody body)).isNone = true ↔
      context.fill overrides text.toList (.hole body) = (Piece.hole body).text := by
  rw [fill_hole]
  cases found : context.shownValue? overrides text ((Piece.hole body).text, .ofBody body) with
  | none => simp
  | some value =>
    obtain ⟨_, dollar, _⟩ := inserts.inert_of_mem member found
    have changed : value.toList ≠ (Piece.hole body).text := fun kept => dollar (by simp [kept, Piece.text])
    simpa using changed

theorem passOver_passOver (inserts : context.InsertsInert overrides text) :
    context.passOver overrides text (context.passOver overrides text text) = context.passOver overrides text text := by
  simp only [passOver, String.toList_ofList]
  exact congrArg String.ofList inserts.fillsInertly.flatMap_again

/-- What one pass leaves of the placeholders of a text are those without a value. -/
theorem shown_passOver (inserts : context.InsertsInert overrides text) :
    (findPlaceholders (context.passOver overrides text text)).map
        (·.shown (context.passOver overrides text text).toList) =
      ((findPlaceholders text).filter fun placeholder =>
        (context.valueIn? overrides text text.toList placeholder).isNone).map (·.shown text.toList) := by
  have whole : (context.passOver overrides text text).toList =
      (pieces text.toList).flatMap (context.fill overrides text.toList) := by
    rw [passOver, String.toList_ofList, pass]
  calc _
    _ = ((pieces text.toList).flatMap (Piece.filled (context.fill overrides text.toList))).filterMap Piece.shown? := by
      rw [map_shown_findPlaceholders, whole, inserts.fillsInertly.pieces_eq]
    _ = ((pieces text.toList).filterMap Piece.shown?).filter
          fun shown => (context.shownValue? overrides text shown).isNone :=
      filterMap_filled fun body member => inserts.isNone_iff member
    _ = _ := by
      rw [← map_shown_findPlaceholders, List.filter_map]
      rfl

end InsertsInert

variable {context overrides text}

/-- Where every value of a placeholder in a text is inert, one pass does all there is to do: another one changes
nothing, so that the text is resolved to what the pass gives, with the home directory put in. The placeholders in
it are those of the text without a value, in their order, each as it is written there. -/
theorem resolve_inert (inserts : context.InsertsInert overrides text) :
    ∃ once, context.Substitutes overrides text text once ∧
      (∀ limit, 2 ≤ limit →
        context.passes? overrides limit text = .ok (if once = text then [once] else [once, once])) ∧
      (∀ limit, 1 ≤ limit → context.resolve overrides limit (some text) = .ok (some (context.expandHome once))) ∧
      (findPlaceholders once).map (·.shown once.toList) =
        ((findPlaceholders text).filter fun placeholder =>
          (context.valueIn? overrides text text.toList placeholder).isNone).map (·.shown text.toList) := by
  refine ⟨context.passOver overrides text text, context.substitutes_passOver overrides text text, ?_, ?_,
    inserts.shown_passOver⟩
  · intro limit more
    have other : limit.toNat ≠ 1 := by omega
    rw [context.passes?_eq overrides text (by omega : 1 ≤ limit), orbit_of_settled inserts.passOver_passOver (by omega)]
    simp [other]
  · intro limit positive
    have bound : passBound limit = .ok limit.toNat := by simp [passBound, Int.not_lt.mpr positive]
    have last : (context.passes overrides limit.toNat text).getLast?.getD text =
        context.passOver overrides text text := by
      rw [passes_eq_orbit, orbit_of_settled inserts.passOver_passOver (by omega)]
      split <;> rfl
    simp only [resolve, bound, expand, last]
    split
    · next empty =>
      subst empty
      simp [passOver, pass, pieces, expandHome]
    · rfl

end Context

/-- A variable whose value holds a closing brace. -/
def braced : Context where
  environment := [("A", "1\x7d")]

/-- Placeholders behind a dollar sign and in front of a brace, one that has no value, and an opening that its line
leaves open. -/
def bracedTemplate : String := "$$\x7bA\x7d\x7bx\x7d$\x7bB$\x7bA\x7d$\x7bA\n$\x7bA\x7d"

/-- What one pass makes of it. -/
def bracedText : String := "$1\x7d\x7bx\x7d$\x7bB$\x7bA\x7d$\x7bA\n1\x7d"

/-- The value is inserted twice, and the placeholder without a value is the only one that is left. -/
theorem resolve_inert_beside : braced.InsertsInert [] bracedTemplate ∧
    braced.passes? [] 2 bracedTemplate = .ok [bracedText, bracedText] ∧
    braced.resolve [] 1 (some bracedTemplate) = .ok (some (braced.expandHome bracedText)) ∧
    (findPlaceholders bracedText).map (·.shown bracedText.toList) =
      ((findPlaceholders bracedTemplate).filter fun placeholder =>
        (braced.valueIn? [] bracedTemplate bracedTemplate.toList placeholder).isNone).map
          (·.shown bracedTemplate.toList) ∧
    (findPlaceholders bracedText).map (·.reference) = [⟨.environment, "B$\x7bA"⟩] := by
  have inserts : braced.InsertsInert [] bracedTemplate := by decide +kernel
  have passes : braced.passes [] 2 bracedTemplate = [bracedText, bracedText] := by decide +kernel
  have left : (findPlaceholders bracedText).map (·.reference) = [⟨.environment, "B$\x7bA"⟩] := by decide +kernel
  have yields : braced.passes? [] 2 bracedTemplate = .ok (braced.passes [] 2 bracedTemplate) := rfl
  obtain ⟨once, _, twice, resolves, shown⟩ := Context.resolve_inert inserts
  rw [passes] at yields
  have pass : once = bracedText := by
    have both := Except.ok.inj (yields.symm.trans (twice 2 (by decide)))
    split at both
    · cases both
    · exact (List.cons.inj both).1.symm
  subst pass
  exact ⟨inserts, yields, resolves 1 (by decide), shown, left⟩

end LayeredSettings

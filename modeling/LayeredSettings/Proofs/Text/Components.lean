import LayeredSettings.Store.Flat

namespace LayeredSettings

theorem splitAt_append (mark : Char) (a b : List Char) :
    splitAt mark (a ++ mark :: b) = splitAt mark a ++ splitAt mark b := by
  induction a with
  | nil => simp [splitAt]
  | cons c rest ih =>
    simp only [List.cons_append, splitAt, ih]
    split
    · rfl
    · cases parts : splitAt mark rest with
      | nil => exact absurd parts (splitAt_ne_nil mark rest)
      | cons first others => rfl

theorem joinWith_append (mark : Char) {front back : List (List Char)} (some : front ≠ []) (more : back ≠ []) :
    joinWith mark (front ++ back) = joinWith mark front ++ mark :: joinWith mark back := by
  induction front with
  | nil => exact absurd rfl some
  | cons part rest ih =>
    cases rest with
    | nil =>
      cases back with
      | nil => exact absurd rfl more
      | cons next others => rfl
    | cons next others =>
      have onward := ih (by simp)
      simp only [List.cons_append, joinWith] at onward ⊢
      rw [onward]
      simp

/-- Parts without the mark are found again in the text they are joined to. -/
theorem splitAt_joinWith {mark : Char} {parts : List (List Char)} (some : parts ≠ [])
    (free : ∀ part ∈ parts, mark ∉ part) : splitAt mark (joinWith mark parts) = parts := by
  have single {part : List Char} (free : mark ∉ part) : splitAt mark part = [part] := by
    induction part with
    | nil => rfl
    | cons c rest ih =>
      simp only [List.mem_cons, not_or] at free
      have other : c ≠ mark := fun same => free.1 same.symm
      rw [splitAt, if_neg other, ih free.2]
  induction parts with
  | nil => exact absurd rfl some
  | cons part rest ih =>
    have first := single (free part (List.mem_cons_self ..))
    cases rest with
    | nil => exact first
    | cons next others =>
      have onward := ih (by simp) fun part member => free part (List.mem_cons_of_mem _ member)
      rw [joinWith, splitAt_append, first, onward]
      · rfl
      · simp

/-- A text is made up of its components. -/
theorem components_injective {s t : List Char} (same : components s = components t) : s = t := by
  rw [← joinWith_splitAt '.' s, ← joinWith_splitAt '.' t]
  exact congrArg (joinWith '.') same

/-- The key of something inside a section is not empty. -/
theorem insideKey_ne_empty (sectionKey rest : String) : sectionKey ++ "." ++ rest ≠ "" := by
  intro empty
  have parts := congrArg String.toList empty
  simp at parts

variable {sectionKey key rest : String}

theorem below?_eq_some_iff : below? sectionKey key = some rest ↔
    key.toList = sectionKey.toList ++ '.' :: rest.toList := by
  have head : sectionKey.toList ++ '.' :: rest.toList = (sectionKey.toList ++ ['.']) ++ rest.toList := by simp
  simp only [below?, head]
  split
  · next inside =>
    obtain ⟨tail, whole⟩ := List.isPrefixOf_iff_prefix.mp inside
    rw [← whole, List.drop_left, List.append_cancel_left_eq, Option.some.injEq]
    exact ⟨fun same => by rw [← same, String.toList_ofList], fun same => by rw [same, String.ofList_toList]⟩
  · next outside =>
    simp only [reduceCtorEq, false_iff]
    intro whole
    exact outside (List.isPrefixOf_iff_prefix.mpr ⟨rest.toList, whole.symm⟩)

theorem isBelow_iff : isBelow sectionKey key = true ↔ ∃ rest, below? sectionKey key = some rest :=
  Option.isSome_iff_exists

theorem components_of_below (below : below? sectionKey key = some rest) :
    components key.toList = components sectionKey.toList ++ components rest.toList := by
  rw [below?_eq_some_iff.mp below]
  exact splitAt_append '.' _ _

/-- A key lies in a section if the components of the section lead on to it. -/
theorem isBelow_iff_components : isBelow sectionKey key = true ↔
    components sectionKey.toList <+: components key.toList ∧ sectionKey ≠ key := by
  rw [isBelow_iff]
  constructor
  · rintro ⟨rest, below⟩
    refine ⟨⟨_, (components_of_below below).symm⟩, ?_⟩
    rintro rfl
    have short := congrArg List.length (below?_eq_some_iff.mp below)
    simp at short
  · rintro ⟨⟨tail, whole⟩, other⟩
    have more : tail ≠ [] := by
      rintro rfl
      rw [List.append_nil] at whole
      exact other (String.toList_inj.mp (components_injective whole))
    refine ⟨String.ofList (joinWith '.' tail), below?_eq_some_iff.mpr ?_⟩
    have joined := congrArg (joinWith '.') whole
    simp only [components] at joined
    rw [joinWith_append '.' (splitAt_ne_nil '.' _) more, joinWith_splitAt, joinWith_splitAt] at joined
    rw [← joined, String.toList_ofList]

/-- Whether a key is that of a section or lies inside it. -/
def isWithin (sectionKey key : String) : Bool := key = sectionKey || isBelow sectionKey key

theorem isWithin_iff : isWithin sectionKey key = true ↔ key = sectionKey ∨ isBelow sectionKey key = true := by
  simp [isWithin]

theorem isWithin_iff_components :
    isWithin sectionKey key = true ↔ components sectionKey.toList <+: components key.toList := by
  rw [isWithin_iff, isBelow_iff_components]
  constructor
  · rintro (rfl | ⟨inside, _⟩)
    · exact List.prefix_rfl
    · exact inside
  · intro inside
    by_cases same : key = sectionKey
    · exact .inl same
    · exact .inr ⟨inside, Ne.symm same⟩

theorem isWithin_trans {other : String} (inside : isWithin sectionKey key = true) (further : isWithin key other = true) :
    isWithin sectionKey other = true := by
  rw [isWithin_iff_components] at *
  exact inside.trans further

end LayeredSettings

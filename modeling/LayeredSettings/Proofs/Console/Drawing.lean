import Mathlib.Data.List.Basic
import LayeredSettings.Console.Emoji
import LayeredSettings.Console.Layout

namespace LayeredSettings

/-- Characters between two colons that may be a code. -/
def CodeLike (code : List Char) : Prop := ∀ c ∈ code, c ≠ ':' ∧ isBlank c = false

/-- A text in which the code of a picture stands between two colons. -/
def HoldsPicture (s : List Char) : Prop :=
  ∃ before code after, s = before ++ ':' :: code ++ ':' :: after ∧ CodeLike code ∧ (picture? code).isSome

theorem HoldsPicture.behind {s : List Char} (holds : HoldsPicture s) (front : List Char) : HoldsPicture (front ++ s) := by
  obtain ⟨before, code, after, rfl, like, listed⟩ := holds
  exact ⟨front ++ before, code, after, by simp, like, listed⟩

/-- What has been read but not yet written: a colon, and what stands behind it. -/
def pending : Option (List Char) → List Char
  | none => []
  | some code => ':' :: code

/-- A text that holds no picture is drawn as it is written. What has been read since a colon has neither a colon nor
a blank in it. -/
theorem drawnFrom_of_free {opened : Option (List Char)} {s : List Char}
    (like : ∀ code, opened = some code → CodeLike code) (free : ¬HoldsPicture (pending opened ++ s)) :
    drawnFrom opened s = pending opened ++ s := by
  induction s generalizing opened with
  | nil => cases opened <;> simp [drawnFrom, pending]
  | cons c rest ih =>
    -- Nothing is open behind the next character, and what comes then is drawn as it is written.
    have later (front : List Char) (whole : pending opened ++ c :: rest = front ++ rest) : drawnFrom none rest = rest := by
      refine ih nofun fun holds => free ?_
      rw [whole]
      exact HoldsPicture.behind holds front
    cases opened with
    | none =>
      rw [drawnFrom]
      split
      · next colon =>
        subst colon
        have none : ∀ code, some [] = some code → CodeLike code := by
          rintro code ⟨⟩
          exact nofun
        exact ih none free
      · rw [later [c] rfl]
        rfl
    | some code =>
      rw [drawnFrom]
      split_ifs with colon blank
      · subst colon
        have unlisted : picture? code = none := by
          cases listed : picture? code with
          | none => rfl
          | some picture => exact absurd ⟨[], code, rest, rfl, like code rfl, by rw [listed]; rfl⟩ free
        rw [unlisted, later (':' :: code ++ [':']) (by simp [pending])]
        simp [pending]
      · rw [later (':' :: code ++ [c]) (by simp [pending])]
        simp [pending]
      · have longer : CodeLike (code ++ [c]) := by
          intro d member
          rcases List.mem_append.mp member with old | new
          · exact like code rfl d old
          · rw [List.mem_singleton.mp new]
            exact ⟨colon, Bool.eq_false_iff.mpr blank⟩
        have whole : pending (some code) ++ c :: rest = pending (some (code ++ [c])) ++ rest := by simp [pending]
        rw [whole] at free ⊢
        exact ih (by rintro _ ⟨⟩; exact longer) free

theorem drawn_of_free {s : List Char} (free : ¬HoldsPicture s) : drawn s = s := drawnFrom_of_free nofun free

/-- The characters that a terminal shows in another way than it is given them. -/
def isReshown (c : Char) : Bool := c = '\t' || isTerminalControl c

theorem expandTabs_of_free {s : List Char} (free : '\t' ∉ s) (column : Nat) : expandTabs column s = s := by
  induction s generalizing column with
  | nil => rfl
  | cons c rest ih =>
    rw [List.mem_cons, not_or] at free
    rw [expandTabs, if_neg (Ne.symm free.1), ih free.2]

/-- The characters of each part are among those of the whole. -/
theorem subset_joinWith {mark : Char} {parts : List (List Char)} {part : List Char} (member : part ∈ parts) :
    part ⊆ joinWith mark parts := by
  induction parts with
  | nil => cases member
  | cons first others ih =>
    cases others with
    | nil =>
      rw [List.mem_singleton.mp member]
      exact List.Subset.refl _
    | cons second others =>
      have whole : joinWith mark (first :: second :: others) = first ++ mark :: joinWith mark (second :: others) := rfl
      rw [whole]
      rcases List.mem_cons.mp member with rfl | later
      · exact List.subset_append_left _ _
      · exact List.subset_append_of_subset_right _ (List.subset_cons_of_subset mark (ih later))

/-- A text is shown as it is given if there is nothing in it that a terminal shows in another way. -/
theorem shown_of_free {s : List Char} (free : ∀ c ∈ s, isReshown c = false) : shown s = s := by
  simp only [isReshown, Bool.or_eq_false_iff, decide_eq_false_iff_not] at free
  have kept : s.filter (!isTerminalControl ·) = s := by
    refine List.filter_eq_self.mpr fun c member => ?_
    rw [(free c member).2]
    rfl
  have lines : (splitAt '\n' s).map (expandTabs 0) = splitAt '\n' s := by
    refine (List.map_congr_left fun line member => expandTabs_of_free (fun inside => ?_) 0).trans (List.map_id' _)
    have within : '\t' ∈ s := joinWith_splitAt '\n' s ▸ subset_joinWith member inside
    exact (free _ within).1 rfl
  rw [shown, shownLines, kept, lines, joinWith_splitAt]

end LayeredSettings

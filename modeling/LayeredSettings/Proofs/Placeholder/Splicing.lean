import LayeredSettings.Proofs.Placeholder.Grammar
import LayeredSettings.Proofs.Placeholder.Orbit

namespace LayeredSettings

/-- The part of a text that a placeholder takes up. -/
def Placeholder.slice (text : List Char) (placeholder : Placeholder) : List Char :=
  text.extract placeholder.start placeholder.stop

/-- A text from a position on, with a value in place of each of some placeholders. All that stands between
them is kept. -/
def splice (text : List Char) (value : Placeholder → List Char) (origin : Nat) : List Placeholder → List Char
  | [] => text.drop origin
  | placeholder :: rest =>
    text.extract origin placeholder.start ++ value placeholder ++ splice text value placeholder.stop rest

theorem splice_char {text after : List Char} {origin : Nat} {c : Char} {list : List Placeholder}
    (value : Placeholder → List Char) (here : text.drop origin = c :: after)
    (behind : ∀ placeholder ∈ list, origin + 1 ≤ placeholder.start) :
    splice text value origin list = c :: splice text value (origin + 1) list := by
  have onward : text.drop (origin + 1) = after := by rw [← List.drop_drop, here]; rfl
  cases list with
  | nil => rw [splice, splice, here, onward]
  | cons placeholder rest =>
    have first := behind placeholder (List.mem_cons_self ..)
    have size : placeholder.start - origin = placeholder.start - (origin + 1) + 1 := by omega
    simp only [splice, List.extract_eq_take_drop, here, onward, size, List.take_succ_cons, List.cons_append]

namespace Context

variable (context : Context) (overrides : Entries String EnvOverride) (template : String)

/-- A text comes from another one by a pass over a template. Each placeholder found there is looked up under its
tag, lists being allowed where it is written as the whole template is; it gives way to the value, or stays
as it is written if there is none. -/
def Substitutes (before after : String) : Prop :=
  ∃ value : Placeholder → Option String,
    (∀ placeholder ∈ findPlaceholders before,
      context.lookupTagged overrides (decide (placeholder.slice before.toList = template.toList))
        placeholder.reference.source.tag placeholder.reference.name = .ok (value placeholder)) ∧
      after.toList = splice before.toList
        (fun placeholder => (value placeholder).elim (placeholder.slice before.toList) String.toList) 0
        (findPlaceholders before)

theorem lookupTagged_tag (whole : Bool) (reference : Reference) :
    context.lookupTagged overrides whole reference.source.tag reference.name =
      .ok (context.lookup? overrides whole reference) := by
  obtain ⟨source, name⟩ := reference
  cases source <;> rfl

/-- The value of a placeholder of a text. -/
def valueIn? (text : List Char) (placeholder : Placeholder) : Option String :=
  context.lookup? overrides (decide (placeholder.slice text = template.toList)) placeholder.reference

theorem fill_of_writtenAt {text body : List Char} (placeholder : Placeholder)
    (written : WrittenAt text placeholder.start placeholder.stop body)
    (refers : placeholder.reference = .ofBody body) :
    context.fill overrides template.toList (.hole body) =
      (context.valueIn? overrides template text placeholder).elim (placeholder.slice text) String.toList := by
  have slice : placeholder.slice text = (Piece.hole body).text := written.slice
  rw [fill, valueIn?, slice, refers]
  cases context.lookup? overrides (decide ((Piece.hole body).text = template.toList)) (.ofBody body) <;> rfl

/-- A pass replaces each placeholder that is found, and keeps all else. -/
theorem pass_eq_splice (text : List Char) (origin : Nat) :
    context.pass overrides template.toList (text.drop origin) = splice text
      (fun placeholder => (context.valueIn? overrides template text placeholder).elim (placeholder.slice text)
        String.toList) origin (placeholdersFrom origin (pieces (text.drop origin))) := by
  -- The induction is on what remains of the text, while positions stay those in the whole of it.
  generalize rest : text.drop origin = s
  unfold pass
  induction s using template_induction generalizing origin with
  | nil =>
    rw [pieces, placeholdersFrom, splice, rest]
    rfl
  | hole s body after opens ih =>
    have onward : text.drop (origin + body.length + 3) = after := by
      rw [Nat.add_assoc, ← List.drop_drop, rest, opens.drop_eq]
    have written : WrittenAt text origin (origin + body.length + 3) body :=
      writtenAt_iff.mpr ⟨rfl, after, rest ▸ opens⟩
    simp only [pieces_of_opens opens, List.flatMap_cons, placeholdersFrom, splice, List.extract_eq_take_drop,
      Nat.sub_self, List.take_zero, List.nil_append, ih _ onward]
    rw [context.fill_of_writtenAt overrides template ⟨origin, origin + body.length + 3, .ofBody body⟩ written rfl]
  | char c inner plain ih =>
    have onward : text.drop (origin + 1) = inner := by rw [← List.drop_drop, rest]; rfl
    have listed := lists_placeholdersFrom text (origin + 1)
    rw [onward] at listed
    rw [pieces_of_not_opens plain, placeholdersFrom, List.flatMap_cons, ih _ onward,
      splice_char _ rest fun placeholder member => (listed.written placeholder member).1]
    rfl

theorem substitutes_passOver (text : String) :
    context.Substitutes overrides template text (context.passOver overrides template text) := by
  refine ⟨context.valueIn? overrides template text.toList, fun placeholder _ => ?_, ?_⟩
  · exact context.lookupTagged_tag overrides _ placeholder.reference
  · rw [passOver, String.toList_ofList]
    exact context.pass_eq_splice overrides template text.toList 0

/-- Passes are always yielded, and each text comes from the one before it by substitution of its placeholders. -/
theorem passes_substitute {limit : Int} (positive : 1 ≤ limit) : ∃ texts,
    context.passes? overrides limit template = .ok texts ∧
      (template :: texts).IsChain (context.Substitutes overrides template) := by
  refine ⟨_, context.passes?_eq overrides template positive, ?_⟩
  refine (isChain_orbit ..).imp fun before after next => ?_
  rw [next]
  exact context.substitutes_passOver overrides template before

end Context

/-- A variable whose value refers to another one, which is not set. -/
def halfKnown : Context where
  environment := [("A", "1$\x7bB\x7d")]

/-- A list does not take part inside a longer template, so its placeholder is kept in each pass. -/
theorem passes_substitute_kept : (1 : Int) ≤ 2 ∧
    halfKnown.passes? [("B", .texts ["x"])] 2 "$\x7bA\x7d-$\x7bB\x7d" =
      .ok ["1$\x7bB\x7d-$\x7bB\x7d", "1$\x7bB\x7d-$\x7bB\x7d"] ∧
    halfKnown.Substitutes [("B", .texts ["x"])] "$\x7bA\x7d-$\x7bB\x7d" "$\x7bA\x7d-$\x7bB\x7d"
      "1$\x7bB\x7d-$\x7bB\x7d" := by
  have computed : halfKnown.passes [("B", .texts ["x"])] 2 "$\x7bA\x7d-$\x7bB\x7d" =
      ["1$\x7bB\x7d-$\x7bB\x7d", "1$\x7bB\x7d-$\x7bB\x7d"] := by decide +kernel
  obtain ⟨texts, yields, chain⟩ :=
    halfKnown.passes_substitute [("B", .texts ["x"])] "$\x7bA\x7d-$\x7bB\x7d" (by decide : (1 : Int) ≤ 2)
  have same : .ok (halfKnown.passes [("B", .texts ["x"])] 2 "$\x7bA\x7d-$\x7bB\x7d") = Except.ok texts := yields
  cases same
  rw [computed] at yields chain
  exact ⟨by decide, yields, (List.isChain_cons_cons.mp chain).1⟩

end LayeredSettings

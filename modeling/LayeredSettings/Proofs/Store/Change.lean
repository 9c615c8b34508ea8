import LayeredSettings.Proofs.Override.Reading
import LayeredSettings.Proofs.Store.Difference

namespace LayeredSettings

theorem Value.text_of_equal {v w : Value} (same : v.equal w = true) : v.text? = w.text? := by
  cases v with
  | scalar s =>
    cases w with
    | scalar t =>
      simp only [Value.equal] at same
      cases s with
      | text a => rw [Scalar.eq_of_equal_text (.inl same)]
      | null | bool | int | float | bytes | date | dateTime =>
        cases t with
        | text b => cases Scalar.eq_of_equal_text (.inr same)
        | null | bool | int | float | bytes | date | dateTime => rfl
    | list | tuple | map | set | enclosing => simp [Value.equal, Value.same] at same
  | list | tuple | map | set | enclosing =>
    cases w with
    | scalar t => simp [Value.equal, Value.same] at same
    | list | tuple | map | set | enclosing => rfl

namespace Flat

/-- Where a key is no setting, it may name a section, which is no text. -/
theorem textOf_eq_get (flat : Flat) (key : String) : flat.textOf key = (Entries.get? flat key).bind Value.text? := by
  unfold textOf lookup?
  cases found : Entries.get? flat key with
  | some v => rfl
  | none =>
    simp only [nest?]
    split <;> split <;> rfl

theorem textOf_eq_some_iff {flat : Flat} {key s : String} :
    flat.textOf key = some s ↔ Entries.get? flat key = some (.text s) := by
  rw [textOf_eq_get, Option.bind_eq_some_iff]
  constructor
  · rintro ⟨v, found, text⟩
    rw [found, Value.eq_text text]
  · exact fun found => ⟨_, found, rfl⟩

/-- Two settings give the same texts in a section. -/
def SameTexts (sectionKey : String) (before after : Flat) : Prop :=
  ∀ key, touches sectionKey key = true → before.textOf key = after.textOf key

theorem SameTexts.refl (sectionKey : String) (flat : Flat) : SameTexts sectionKey flat flat := fun _ _ => rfl

theorem SameTexts.trans {sectionKey : String} {before between after : Flat}
    (first : SameTexts sectionKey before between) (second : SameTexts sectionKey between after) :
    SameTexts sectionKey before after :=
  fun key inside => (first key inside).trans (second key inside)

/-- A change that does not touch a section leaves the texts in it. -/
theorem sameTexts_of_not_affects {sectionKey : String} {before after : Flat}
    (elsewhere : affects (changedKeys before after) sectionKey = false) : SameTexts sectionKey before after := by
  intro key inside
  rw [textOf_eq_get, textOf_eq_get]
  rcases sameAt_iff.mp (sameAt_of_not_affects elsewhere inside) with
    ⟨absent, absent'⟩ | ⟨v, w, held, found, alike⟩
  · rw [absent, absent']
  · rw [held, found]
    exact Value.text_of_equal alike

end Flat

end LayeredSettings

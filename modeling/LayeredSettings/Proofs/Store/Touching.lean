import LayeredSettings.Proofs.Text.Components
import LayeredSettings.Store.Change

namespace LayeredSettings

variable {sectionKey outer key : String}

/-- A change of a key touches a section if the components of one of them lead on to the other. -/
theorem touches_iff_components : touches sectionKey key = true ↔
    components key.toList <+: components sectionKey.toList ∨
      components sectionKey.toList <+: components key.toList := by
  rw [← isWithin_iff_components, ← isWithin_iff_components, isWithin_iff, isWithin_iff, touches, Bool.or_eq_true,
    Bool.or_eq_true, decide_eq_true_eq]
  constructor
  · rintro ((rfl | inside) | around)
    · exact .inl (.inl rfl)
    · exact .inr (.inr inside)
    · exact .inl (.inr around)
  · rintro ((rfl | around) | (rfl | inside))
    · exact .inl (.inl rfl)
    · exact .inr around
    · exact .inl (.inl rfl)
    · exact .inl (.inr inside)

/-- What touches a section touches all that it lies in: of two sections around one key, one lies in the other. -/
theorem touches_outer (around : components outer.toList <+: components sectionKey.toList)
    (touched : touches sectionKey key = true) : touches outer key = true := by
  rw [touches_iff_components] at touched ⊢
  rcases touched with above | inside
  · exact List.prefix_or_prefix_of_prefix above around
  · exact .inr (around.trans inside)

/-- A change of some keys affects a section just where the components of one of the keys lead on to the section, or
those of the section to the key. With a section it affects all those that the section lies in. -/
theorem affects_components (keys : List String) (sectionKey : String) :
    (affects keys sectionKey = true ↔ ∃ key ∈ keys,
      components key.toList <+: components sectionKey.toList ∨
        components sectionKey.toList <+: components key.toList) ∧
    ∀ outer : String, components outer.toList <+: components sectionKey.toList →
      affects keys sectionKey = true → affects keys outer = true := by
  have affected (name : String) : affects keys name = true ↔ ∃ key ∈ keys, touches name key = true :=
    List.any_eq_true
  constructor
  · simp only [affected, touches_iff_components]
  · intro outer around
    rw [affected, affected]
    rintro ⟨key, changed, touched⟩
    exact ⟨key, changed, touches_outer around touched⟩

/-- A section and what it lies in, a section whose name only begins alike, and one with an empty component. -/
theorem affects_components_lookalike :
    components "a".toList <+: components "a.b".toList ∧ affects ["a.b.c"] "a.b" = true ∧
    affects ["a.b.c"] "a" = true ∧ affects ["a.b.c"] "a.b." = false ∧ affects ["a.b.c"] "a.bc" = false := by
  have around : components "a".toList <+: components "a.b".toList := by decide
  have inside : affects ["a.b.c"] "a.b" = true := by decide
  exact ⟨around, inside, (affects_components ["a.b.c"] "a.b").2 "a" around inside, by decide, by decide⟩

end LayeredSettings

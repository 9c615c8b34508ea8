import LayeredSettings.Proofs.Value.Equality
import LayeredSettings.Store.Change

namespace LayeredSettings

variable {before between after : Flat} {key : String}

/-- A key is the same before and after if it has no value at all, or equal ones. -/
theorem sameAt_iff : sameAt before after key = true ↔
    (Entries.get? before key = none ∧ Entries.get? after key = none) ∨
      ∃ v w, Entries.get? before key = some v ∧ Entries.get? after key = some w ∧ v.equal w = true := by
  unfold sameAt
  cases Entries.get? before key <;> cases Entries.get? after key <;> simp

theorem sameAt_trans (first : sameAt before between key = true) (second : sameAt between after key = true) :
    sameAt before after key = true := by
  rw [sameAt_iff] at first second ⊢
  rcases first with ⟨none, absent⟩ | ⟨u, v, held, found, alike⟩
  · rcases second with ⟨_, none'⟩ | ⟨v, _, found, _⟩
    · exact .inl ⟨none, none'⟩
    · rw [absent] at found
      cases found
  · rcases second with ⟨absent, _⟩ | ⟨v', w, found', last, alike'⟩
    · rw [absent] at found
      cases found
    · cases found.symm.trans found'
      exact .inr ⟨u, w, held, last, Value.equal_trans alike alike'⟩

theorem mem_changedKeys_iff : key ∈ changedKeys before after ↔ sameAt before after key = false := by
  simp only [changedKeys, List.mem_append, List.mem_filter, Bool.not_eq_true', Option.isNone_iff_eq_none,
    Entries.mem_keys_iff]
  constructor
  · rintro (⟨_, differs⟩ | ⟨⟨v, new⟩, absent⟩)
    · exact differs
    · simp [sameAt, new, absent]
  · intro differs
    cases held : Entries.get? before key with
    | some v => exact .inl ⟨⟨v, rfl⟩, differs⟩
    | none =>
      cases found : Entries.get? after key with
      | some w => exact .inr ⟨⟨w, rfl⟩, rfl⟩
      | none => simp [sameAt, held, found] at differs

/-- A change that does not touch a section leaves the keys that touch it the same. -/
theorem sameAt_of_not_affects {sectionKey : String}
    (elsewhere : affects (changedKeys before after) sectionKey = false) (inside : touches sectionKey key = true) :
    sameAt before after key = true := by
  cases same : sameAt before after key with
  | true => rfl
  | false =>
    rw [affects, List.any_eq_false] at elsewhere
    exact absurd inside (elsewhere key (mem_changedKeys_iff.mpr same))

/-- Each key that differs is told once. -/
theorem nodup_changedKeys (apart : (Entries.keys before).Nodup) (apart' : (Entries.keys after).Nodup) :
    (changedKeys before after).Nodup := by
  refine List.nodup_append.mpr ⟨apart.filter _, apart'.filter _, ?_⟩
  intro key old key' new same
  subst same
  obtain ⟨v, held⟩ := Entries.mem_keys_iff.mp (List.mem_filter.mp old).1
  have absent := (List.mem_filter.mp new).2
  rw [Option.isNone_iff_eq_none] at absent
  rw [held] at absent
  cases absent

end LayeredSettings

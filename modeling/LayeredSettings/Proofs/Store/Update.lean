import LayeredSettings.Proofs.Store.Writing

namespace LayeredSettings

namespace Entries

variable {κ ν : Type} [DecidableEq κ]

theorem filter_put (keep : κ → Bool) (entries : Entries κ ν) (key : κ) (value : ν) :
    (entries.put key value).filter (fun entry => keep entry.1) =
      if keep key then put (entries.filter fun entry => keep entry.1) key value
      else entries.filter fun entry => keep entry.1 := by
  induction entries with
  | nil => cases kept : keep key <;> simp [put, putBy, kept]
  | cons entry rest ih =>
    simp only [put] at ih
    by_cases here : entry.1 = key
    · cases kept : keep key <;> simp [put, putBy, here, kept]
    · cases first : keep entry.1 <;> cases kept : keep key <;> simp_all [put, putBy]

theorem get?_filter (keep : κ → Bool) (entries : Entries κ ν) (key : κ) :
    get? (entries.filter fun entry => keep entry.1) key = if keep key then entries.get? key else none := by
  induction entries with
  | nil => simp [get?]
  | cons entry rest ih =>
    rw [List.filter_cons]
    by_cases here : entry.1 = key
    · cases kept : keep key <;> simp_all [get?]
    · cases first : keep entry.1 <;> simp_all [get?]

/-- Of merged entries those under some keys are merged. -/
theorem filter_merge (keep : κ → Bool) (entries others : Entries κ ν) :
    (entries.merge others).filter (fun entry => keep entry.1) =
      merge (entries.filter fun entry => keep entry.1) (others.filter fun entry => keep entry.1) := by
  induction others generalizing entries with
  | nil => rfl
  | cons entry rest ih =>
    rw [merge_cons, ih, filter_put, List.filter_cons]
    split
    · rw [merge_cons]
    · rfl

end Entries

mutual

/-- What is taken apart under a key has that key or one inside its section. -/
theorem within_of_flattenOnto {outer : String} (named : outer ≠ "") : ∀ (entries : List (Scalar × Value)) (flat : Flat)
    {entry : String × Value}, entry ∈ flattenOnto outer flat entries → entry ∈ flat ∨ isWithin outer entry.1 = true
  | [], flat, entry, member => .inl (by simpa only [flattenOnto] using member)
  | (key, value) :: rest, flat, entry, member => by
    simp only [flattenOnto] at member
    have joined : joinKey outer key = outer ++ "." ++ key.keyText := if_neg named
    have inside : isWithin outer (joinKey outer key) = true := by
      refine isWithin_iff.mpr (.inr (isBelow_iff.mpr ⟨key.keyText, below?_eq_some_iff.mpr ?_⟩))
      simp [joined]
    rcases within_of_flattenOnto named rest _ member with merged | within
    · refine (Entries.mem_merge merged).imp_right fun new => isWithin_trans inside ?_
      exact within_of_flattenEntry (joined ▸ insideKey_ne_empty outer _) value new
    · exact .inr within

theorem within_of_flattenEntry {key : String} (named : key ≠ "") : ∀ (value : Value) {entry : String × Value},
    entry ∈ flattenEntry key value → isWithin key entry.1 = true
  | .map entries, entry, member => by
    simp only [flattenEntry] at member
    exact (within_of_flattenOnto named entries [] member).resolve_left (by simp)
  | .scalar s, entry, member => by
    cases s <;> simp_all [flattenEntry, isWithin]
  | .list _, entry, member | .tuple _, entry, member | .set _, entry, member | .enclosing _, entry, member => by
    simp_all [flattenEntry, isWithin]

end

theorem nodup_flattenEntry (key : String) (value : Value) : (Entries.keys (flattenEntry key value)).Nodup := by
  rcases value.leaf_or_map with leaf | ⟨entries, rfl⟩
  · rw [flattenEntry_of_leaf leaf]
    split <;> simp [Entries.keys]
  · rw [flattenEntry]
    exact nodup_flattenOnto key entries List.nodup_nil

namespace Flat

/-- The setting of a key and those inside the section it names. -/
def within (flat : Flat) (key : String) : Flat := flat.filter fun entry => isWithin key entry.1

theorem remove_eq (flat : Flat) (key : String) : flat.remove key = flat.filter fun entry => !isWithin key entry.1 := by
  simp [remove, isWithin]

theorem within_merge (flat others : Flat) (key : String) :
    Flat.within (flat.merge others) key = Entries.merge (flat.within key) (others.within key) :=
  Entries.filter_merge (isWithin key) flat others

theorem remove_merge (flat others : Flat) (key : String) :
    Flat.remove (flat.merge others) key = Entries.merge (flat.remove key) (others.remove key) := by
  simp only [remove_eq]
  exact Entries.filter_merge (fun k => !isWithin key k) flat others

theorem within_remove (flat : Flat) (key : String) : (flat.remove key).within key = [] := by
  simp [remove_eq, within, List.filter_filter]

theorem remove_remove (flat : Flat) (key : String) : (flat.remove key).remove key = flat.remove key := by
  simp [remove_eq, List.filter_filter]

variable {key : String} (named : key ≠ "") (value : Value)

include named in
theorem within_flattenEntry : Flat.within (flattenEntry key value) key = flattenEntry key value :=
  List.filter_eq_self.mpr fun _ member => within_of_flattenEntry named value member

include named in
theorem remove_flattenEntry : Flat.remove (flattenEntry key value) key = [] := by
  rw [remove_eq, List.filter_eq_nil_iff]
  intro entry member
  simp [within_of_flattenEntry named value member]

end Flat

namespace Layers

/-- What setting a key does to layers: those of the files stay, and in the one of the program all that stood at the key
or inside its section makes room for what the value is taken apart into. -/
structure Updated (before after : Layers) (key : String) (value : Value) : Prop where
  others : ∀ layer, layer ≠ .memory → after.get layer = before.get layer
  kept : after.memory.remove key = before.memory.remove key
  written : after.memory.within key = flattenEntry key value

theorem updated_update (layers : Layers) {key : String} (named : key ≠ "") (value : Value) :
    layers.Updated (layers.update key value) key value := by
  refine ⟨fun layer other => ?_, ?_, ?_⟩
  · rw [update, get_set, if_neg other.symm]
  · have kept : (layers.update key value).memory.remove key =
        Entries.merge ((layers.memory.remove key).remove key) (Flat.remove (flattenEntry key value) key) :=
      Flat.remove_merge _ _ key
    rw [kept, Flat.remove_remove, Flat.remove_flattenEntry named]
    rfl
  · have filled : Entries.merge [] (flattenEntry key value) = [] ++ flattenEntry key value :=
      Entries.merge_of_apart (by simpa using nodup_flattenEntry key value)
    have written : (layers.update key value).memory.within key =
        Entries.merge ((layers.memory.remove key).within key) (Flat.within (flattenEntry key value) key) :=
      Flat.within_merge _ _ key
    rw [written, Flat.within_remove, Flat.within_flattenEntry named, filled, List.nil_append]

variable {before after : Layers}

/-- The settings in force under some keys come of what the layers hold under them. -/
theorem filter_effective_congr (keep : String → Bool)
    (alike : ∀ layer, (after.get layer).filter (fun entry => keep entry.1) =
      (before.get layer).filter fun entry => keep entry.1) :
    after.effective.filter (fun entry => keep entry.1) = before.effective.filter fun entry => keep entry.1 := by
  simp only [effective, Layer.all, List.foldl_cons, List.foldl_nil, Entries.filter_merge, alike]

namespace Updated

variable {key : String} {value : Value}

/-- Elsewhere the settings in force are the ones from before. -/
theorem remove_effective (updated : Updated before after key value) :
    after.effective.remove key = before.effective.remove key := by
  rw [Flat.remove_eq, Flat.remove_eq]
  refine filter_effective_congr (fun k => !isWithin key k) fun layer => ?_
  by_cases memory : layer = .memory
  · subst memory
    rw [← Flat.remove_eq, ← Flat.remove_eq]
    exact updated.kept
  · rw [updated.others layer memory]

/-- What is written is in force. -/
theorem highest?_of_get? (updated : Updated before after key value) (tidy : after.Tidy) {other : String} {v : Value}
    (found : Entries.get? (flattenEntry key value) other = some v) : after.highest? other = some v := by
  have member : (other, v) ∈ after.memory.within key := updated.written ▸ Entries.mem_of_get? found
  have held : Entries.get? (after.get .memory) other = some v :=
    Entries.get?_of_mem (tidy .memory) (List.mem_filter.mp member).1
  simp [highest?, Layer.all, held]

/-- Where nothing is written, the settings in force are those of the files. -/
theorem within_effective (updated : Updated before after key .null) :
    after.effective.within key = (before.set .memory []).effective.within key := by
  refine filter_effective_congr (isWithin key) fun layer => ?_
  rw [get_set]
  by_cases memory : layer = .memory
  · subst memory
    exact updated.written
  · rw [if_neg (Ne.symm memory), updated.others layer memory]

end Updated

end Layers

end LayeredSettings

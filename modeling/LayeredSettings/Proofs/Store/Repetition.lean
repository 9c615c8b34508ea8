import LayeredSettings.Proofs.Store.Difference
import LayeredSettings.Proofs.Store.Update
import LayeredSettings.Proofs.Value.Reflexivity

namespace LayeredSettings

mutual

/-- What is taken apart holds no key twice inside if what it is taken from does not. -/
theorem keysApart_of_flattenOnto (outer : String) : ∀ {entries : List (Scalar × Value)} (flat : Flat)
    {entry : String × Value}, Value.entriesKeysApart entries = true → entry ∈ flattenOnto outer flat entries →
    entry ∈ flat ∨ entry.2.keysApart = true
  | [], flat, entry, _, member => .inl (by simpa only [flattenOnto] using member)
  | (key, value) :: rest, flat, entry, apart, member => by
    simp only [flattenOnto] at member
    simp only [Value.entriesKeysApart, Bool.and_eq_true] at apart
    rcases keysApart_of_flattenOnto outer _ apart.2 member with merged | inside
    · exact (Entries.mem_merge merged).imp_right (keysApart_of_flattenEntry _ apart.1)
    · exact .inr inside

theorem keysApart_of_flattenEntry (key : String) : ∀ {value : Value} {entry : String × Value},
    value.keysApart = true → entry ∈ flattenEntry key value → entry.2.keysApart = true
  | .map entries, entry, apart, member => by
    simp only [flattenEntry] at member
    simp only [Value.keysApart, Bool.and_eq_true] at apart
    exact (keysApart_of_flattenOnto key [] apart.2 member).resolve_left (by simp)
  | .scalar s, entry, apart, member => by
    cases s <;> simp_all [flattenEntry]
  | .list _, entry, apart, member | .tuple _, entry, apart, member | .set _, entry, apart, member
  | .enclosing _, entry, apart, member => by
    simp_all [flattenEntry]

end

namespace Flat

/-- No mapping inside a setting holds two keys that are the same. -/
def KeysApart (flat : Flat) : Prop := ∀ entry ∈ flat, entry.2.keysApart = true

theorem get?_remove (flat : Flat) (key other : String) :
    Entries.get? (flat.remove key) other = if isWithin key other then none else Entries.get? flat other := by
  rw [remove_eq, Entries.get?_filter (fun k => !isWithin key k)]
  cases isWithin key other <;> rfl

variable {before after : Flat}

/-- Between maps in which each key has the same value it can always be told what differs. -/
theorem neverDiffer_of_alike (apart : (Entries.keys before).Nodup) (inside : before.KeysApart)
    (alike : ∀ key, Entries.get? after key = Entries.get? before key) : neverDiffer before after = false := by
  rw [neverDiffer, List.any_eq_false]
  intro entry member
  rw [alike, Entries.get?_of_mem apart member]
  simp [Value.neverDiffers_self (inside entry member)]

/-- And what differs is just what is not a number. -/
theorem mem_changedKeys_of_alike (inside : before.KeysApart)
    (alike : ∀ key, Entries.get? after key = Entries.get? before key) {key : String} :
    key ∈ changedKeys before after ↔ ∃ v, Entries.get? before key = some v ∧ v.isNan = true := by
  rw [mem_changedKeys_iff, sameAt, alike]
  cases found : Entries.get? before key with
  | none => simp
  | some v =>
    have reflexive := Value.equal_self_iff (inside _ (Entries.mem_of_get? found))
    cases nan : v.isNan <;> simp_all

end Flat

namespace Layers

variable {before after layers : Layers}

/-- Each key has the same value in each layer. But for the order of its keys, a layer is what it gives for each. -/
def Alike (before after : Layers) : Prop :=
  ∀ layer key, Entries.get? (after.get layer) key = Entries.get? (before.get layer) key

theorem Alike.refl (layers : Layers) : layers.Alike layers := fun _ _ => rfl

theorem Alike.get?_effective (alike : before.Alike after) (tidy : before.Tidy) (tidy' : after.Tidy) (key : String) :
    Entries.get? after.effective key = Entries.get? before.effective key := by
  simp only [tidy.get?_effective, tidy'.get?_effective, highest?, alike _ key]

theorem get?_update (layers : Layers) (key : String) (value : Value) (layer : Layer) (other : String) :
    Entries.get? ((layers.update key value).get layer) other =
      if layer = .memory then (Entries.get? (flattenEntry key value) other).or
        (if isWithin key other then none else Entries.get? (layers.get .memory) other)
      else Entries.get? (layers.get layer) other := by
  rw [update, get_set]
  by_cases memory : layer = .memory
  · rw [if_pos memory.symm, if_pos memory, Entries.get?_merge _ (nodup_flattenEntry key value), Flat.get?_remove]
    rfl
  · rw [if_neg (Ne.symm memory), if_neg memory]

/-- A setting that is set again is set already. -/
theorem alike_update_update (layers : Layers) (key : String) (value : Value) :
    (layers.update key value).Alike ((layers.update key value).update key value) := by
  intro layer other
  by_cases memory : layer = .memory
  · subst memory
    simp only [get?_update, if_true]
    cases Entries.get? (flattenEntry key value) other <;> cases isWithin key other <;> rfl
  · simp only [get?_update, if_neg memory]

/-- Under a key of its own it keeps its place too. -/
theorem update_update (layers : Layers) {key : String} (named : key ≠ "") (value : Value) :
    (layers.update key value).update key value = layers.update key value := by
  have removed : (layers.update key value).memory.remove key = layers.memory.remove key := by
    change Flat.remove ((layers.memory.remove key).merge (flattenEntry key value)) key = _
    rw [Flat.remove_merge, Flat.remove_remove, Flat.remove_flattenEntry named]
    rfl
  rw [update, removed]
  rfl

theorem ext_get (same : ∀ layer, after.get layer = before.get layer) : after = before := by
  cases before
  cases after
  simp only [mk.injEq]
  exact ⟨same .machine, same .user, same .project, same .memory⟩

/-- What is put in the place of a layer does not depend on what stood there. -/
theorem get_replace_congr {layer : Layer} {data : List (Layer × List (Scalar × Value))}
    (same : layer ∈ data.map Prod.fst ∨ after.get layer = before.get layer) :
    (after.replace data).get layer = (before.replace data).get layer := by
  induction data generalizing before after with
  | nil => exact same.resolve_left (by simp)
  | cons first rest ih =>
    refine ih ?_
    simp only [get_set]
    by_cases own : first.1 = layer
    · simp [own]
    · simpa [own, Ne.symm own] using same

theorem get_replace_of_not_mem {layer : Layer} {data : List (Layer × List (Scalar × Value))}
    (absent : layer ∉ data.map Prod.fst) : (layers.replace data).get layer = layers.get layer := by
  induction data generalizing layers with
  | nil => rfl
  | cons first rest ih =>
    simp only [List.map_cons, List.mem_cons, not_or] at absent
    rw [replace, ih absent.2, get_set, if_neg (Ne.symm absent.1)]

/-- Layers that are replaced again are the same. -/
theorem replace_replace (layers : Layers) (data : List (Layer × List (Scalar × Value))) :
    (layers.replace data).replace data = layers.replace data := by
  refine ext_get fun layer => get_replace_congr ?_
  by_cases named : layer ∈ data.map Prod.fst
  · exact .inl named
  · exact .inr (get_replace_of_not_mem named)

/-- No mapping inside a setting of a layer holds two keys that are the same. -/
def KeysApart (layers : Layers) : Prop := ∀ layer, (layers.get layer).KeysApart

theorem keysApart_empty : empty.KeysApart := by
  intro layer
  cases layer <;> exact fun _ member => nomatch member

theorem KeysApart.set (apart : layers.KeysApart) (layer : Layer) {flat : Flat} (own : flat.KeysApart) :
    (layers.set layer flat).KeysApart := by
  intro other
  rw [get_set]
  split
  · exact own
  · exact apart other

theorem KeysApart.update (apart : layers.KeysApart) (key : String) {value : Value} (own : value.keysApart = true) :
    (layers.update key value).KeysApart := by
  refine apart.set .memory fun entry member => ?_
  rcases Entries.mem_merge member with kept | new
  · exact apart .memory entry (List.mem_filter.mp kept).1
  · exact keysApart_of_flattenEntry key own new

theorem KeysApart.replace (apart : layers.KeysApart) {data : List (Layer × List (Scalar × Value))}
    (own : ∀ layer ∈ data, Value.entriesKeysApart layer.2 = true) : (layers.replace data).KeysApart := by
  induction data generalizing layers with
  | nil => exact apart
  | cons first rest ih =>
    refine ih (apart.set first.1 fun entry member => ?_) fun layer member => own layer (List.mem_cons_of_mem _ member)
    exact (keysApart_of_flattenOnto "" [] (own first (List.mem_cons_self ..)) member).resolve_left (by simp)

theorem KeysApart.effective (apart : layers.KeysApart) : layers.effective.KeysApart := by
  intro entry member
  obtain ⟨layer, own⟩ := mem_effective member
  exact apart layer entry own

end Layers

end LayeredSettings

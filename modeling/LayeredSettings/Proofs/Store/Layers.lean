import LayeredSettings.Store.Layers

namespace LayeredSettings

theorem nodup_flattenOnto (outer : String) (entries : List (Scalar × Value)) {flat : Flat}
    (apart : (Entries.keys flat).Nodup) : (Entries.keys (flattenOnto outer flat entries)).Nodup := by
  induction entries generalizing flat with
  | nil => simpa only [flattenOnto] using apart
  | cons entry rest ih =>
    simp only [flattenOnto]
    exact ih (Entries.nodup_merge apart _)

namespace Layers

variable {layers : Layers}

/-- No layer holds a key twice. -/
def Tidy (layers : Layers) : Prop := ∀ layer, (Entries.keys (layers.get layer)).Nodup

theorem get_set (layers : Layers) (layer other : Layer) (flat : Flat) :
    (layers.set layer flat).get other = if layer = other then flat else layers.get other := by
  cases layer <;> cases other <;> rfl

theorem tidy_empty : Tidy empty := by
  intro layer
  cases layer <;> exact List.nodup_nil

theorem Tidy.set (tidy : layers.Tidy) (layer : Layer) {flat : Flat} (apart : (Entries.keys flat).Nodup) :
    (layers.set layer flat).Tidy := by
  intro other
  rw [get_set]
  split
  · exact apart
  · exact tidy other

theorem Tidy.update (tidy : layers.Tidy) (key : String) (value : Value) : (layers.update key value).Tidy :=
  tidy.set .memory (Entries.nodup_merge (Entries.nodup_filter (tidy .memory) _) _)

theorem Tidy.replace (tidy : layers.Tidy) (data : List (Layer × List (Scalar × Value))) :
    (layers.replace data).Tidy := by
  induction data generalizing layers with
  | nil => exact tidy
  | cons entry rest ih => exact ih (tidy.set entry.1 (nodup_flattenOnto "" entry.2 List.nodup_nil))

/-- A property that layers keep when settings are set and layers replaced. -/
structure Lasting (P : Layers → Prop) : Prop where
  update : ∀ {layers : Layers} (key : String) (value : Value), P layers → P (layers.update key value)
  replace : ∀ {layers : Layers} (data : List (Layer × List (Scalar × Value))), P layers → P (layers.replace data)

theorem lasting_tidy : Lasting Tidy where
  update key value tidy := tidy.update key value
  replace data tidy := tidy.replace data

/-- The value of the highest layer that holds a key. -/
def highest? (layers : Layers) (key : String) : Option Value :=
  Layer.all.reverse.findSome? fun layer => Entries.get? (layers.get layer) key

theorem nodup_effective (layers : Layers) : (Entries.keys layers.effective).Nodup := by
  have merged (all : List Layer) {flat : Flat} (apart : (Entries.keys flat).Nodup) :
      (Entries.keys (all.foldl (fun flat layer => flat.merge (layers.get layer)) flat)).Nodup := by
    induction all generalizing flat with
    | nil => exact apart
    | cons layer rest ih => exact ih (Entries.nodup_merge apart _)
  exact merged Layer.all List.nodup_nil

/-- Every setting in force stands in some layer. -/
theorem mem_effective {entry : String × Value} (member : entry ∈ layers.effective) :
    ∃ layer, entry ∈ layers.get layer := by
  have merged (all : List Layer) {flat : Flat} :
      entry ∈ all.foldl (fun flat layer => flat.merge (layers.get layer)) flat →
        entry ∈ flat ∨ ∃ layer, entry ∈ layers.get layer := by
    induction all generalizing flat with
    | nil => exact .inl
    | cons layer rest ih =>
      exact fun member => (ih member).elim (fun here => (Entries.mem_merge here).imp_right fun own => ⟨layer, own⟩) .inr
  exact (merged Layer.all member).resolve_left (by simp)

theorem Tidy.get?_effective (tidy : layers.Tidy) (key : String) :
    Entries.get? layers.effective key = layers.highest? key := by
  have none : Entries.get? ([] : Flat) key = none := rfl
  simp only [effective, highest?, Layer.all, List.foldl_cons, List.foldl_nil, List.reverse_cons, List.reverse_nil,
    List.nil_append, List.cons_append, List.findSome?_cons, List.findSome?_nil, Entries.get?_merge _ (tidy _), none]
  cases Entries.get? (layers.get .memory) key <;> cases Entries.get? (layers.get .project) key <;>
    cases Entries.get? (layers.get .user) key <;> cases Entries.get? (layers.get .machine) key <;> rfl

theorem highest?_eq_none_iff {key : String} :
    layers.highest? key = none ↔ ∀ layer, Entries.get? (layers.get layer) key = none := by
  simp only [highest?, List.findSome?_eq_none_iff, Layer.all]
  constructor
  · intro absent layer
    exact absent layer (by cases layer <;> simp)
  · intro absent layer _
    exact absent layer

/-- The settings in force are those that stand in some layer. -/
theorem Tidy.mem_keys_effective (tidy : layers.Tidy) {key : String} :
    key ∈ Entries.keys layers.effective ↔ ∃ layer, key ∈ Entries.keys (layers.get layer) := by
  constructor
  · intro member
    obtain ⟨v, found⟩ := Entries.mem_keys_iff.mp member
    rw [tidy.get?_effective] at found
    obtain ⟨layer, _, here⟩ := List.exists_of_findSome?_eq_some found
    exact ⟨layer, Entries.mem_keys_iff.mpr ⟨v, here⟩⟩
  · rintro ⟨layer, member⟩
    obtain ⟨v, found⟩ := Entries.mem_keys_iff.mp member
    cases absent : layers.highest? key with
    | none => rw [highest?_eq_none_iff.mp absent layer] at found; cases found
    | some w => exact Entries.mem_keys_iff.mpr ⟨w, (tidy.get?_effective key).trans absent⟩

end Layers

end LayeredSettings

import LayeredSettings.Proofs.Store.Layers
import LayeredSettings.Proofs.Store.Nesting

namespace LayeredSettings

mutual

/-- Nothing that is taken apart is a mapping. -/
theorem leaf_of_flattenOnto (outer : String) : ∀ (entries : List (Scalar × Value)) (flat : Flat)
    {entry : String × Value}, entry ∈ flattenOnto outer flat entries → entry ∈ flat ∨ entry.2.isLeaf = true
  | [], flat, entry, member => .inl (by simpa only [flattenOnto] using member)
  | (key, value) :: rest, flat, entry, member => by
    simp only [flattenOnto] at member
    rcases leaf_of_flattenOnto outer rest _ member with merged | leaf
    · exact (Entries.mem_merge merged).imp_right (leaf_of_flattenEntry _ value)
    · exact .inr leaf

theorem leaf_of_flattenEntry (key : String) : ∀ (value : Value) {entry : String × Value},
    entry ∈ flattenEntry key value → entry.2.isLeaf = true
  | .map entries, entry, member => by
    simp only [flattenEntry] at member
    exact (leaf_of_flattenOnto key entries [] member).resolve_left (by simp)
  | .scalar s, entry, member => by
    cases s <;> simp_all [flattenEntry, Value.isLeaf]
  | .list _, entry, member | .tuple _, entry, member | .set _, entry, member | .enclosing _, entry, member => by
    simp_all [flattenEntry, Value.isLeaf]

end

/-- No setting is a mapping, and none stands twice. -/
structure Flat.Plain (flat : Flat) : Prop where
  leaves : ∀ entry ∈ flat, entry.2.isLeaf = true
  apart : (Entries.keys flat).Nodup

namespace Layers

variable {layers : Layers}

/-- No layer holds a mapping as a setting. -/
def Flattened (layers : Layers) : Prop := ∀ layer, ∀ entry ∈ layers.get layer, entry.2.isLeaf = true

theorem flattened_empty : Flattened empty := by
  intro layer
  cases layer <;> exact fun _ member => nomatch member

theorem Flattened.set (flattened : layers.Flattened) (layer : Layer) {flat : Flat}
    (leaves : ∀ entry ∈ flat, entry.2.isLeaf = true) : (layers.set layer flat).Flattened := by
  intro other
  rw [get_set]
  split
  · exact leaves
  · exact flattened other

theorem Flattened.update (flattened : layers.Flattened) (key : String) (value : Value) :
    (layers.update key value).Flattened := by
  refine flattened.set .memory fun entry member => ?_
  rcases Entries.mem_merge member with kept | new
  · exact flattened .memory entry (List.mem_filter.mp kept).1
  · exact leaf_of_flattenEntry key value new

theorem Flattened.replace (flattened : layers.Flattened) (data : List (Layer × List (Scalar × Value))) :
    (layers.replace data).Flattened := by
  induction data generalizing layers with
  | nil => exact flattened
  | cons first rest ih =>
    exact ih (flattened.set first.1 fun entry member =>
      (leaf_of_flattenOnto "" first.2 [] member).resolve_left (by simp))

theorem lasting_flattened : Lasting Flattened where
  update key value flattened := flattened.update key value
  replace data flattened := flattened.replace data

/-- The settings in force are plain, as what is taken apart is. -/
theorem Flattened.plain_effective (flattened : layers.Flattened) : layers.effective.Plain := by
  refine ⟨fun entry member => ?_, nodup_effective layers⟩
  obtain ⟨layer, own⟩ := mem_effective member
  exact flattened layer entry own

end Layers

end LayeredSettings

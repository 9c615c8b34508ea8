import LayeredSettings.Proofs.Store.Difference
import LayeredSettings.Proofs.Store.Flattening
import LayeredSettings.Proofs.Text.Components
import Mathlib.Data.List.Nodup

namespace LayeredSettings

/-- What remains of the components of a key inside a section. -/
def trailIn? (sectionKey key : String) : Option Trail :=
  (below? sectionKey key).map fun rest => components rest.toList

variable {sectionKey key other : String} {p q : Trail}

theorem components_of_trailIn (inside : trailIn? sectionKey key = some p) :
    components key.toList = components sectionKey.toList ++ p := by
  obtain ⟨rest, below, rfl⟩ := Option.map_eq_some_iff.mp inside
  exact components_of_below below

theorem isBelow_of_trailIn (inside : trailIn? sectionKey key = some p) : isBelow sectionKey key = true := by
  obtain ⟨rest, below, _⟩ := Option.map_eq_some_iff.mp inside
  exact isBelow_iff.mpr ⟨rest, below⟩

theorem trailIn?_injective (inside : trailIn? sectionKey key = some p) (inside' : trailIn? sectionKey other = some p) :
    key = other :=
  String.toList_inj.mp (components_injective
    ((components_of_trailIn inside).trans (components_of_trailIn inside').symm))

/-- Of two keys in a section whose trails lead along each other one lies inside the other. -/
theorem isBelow_of_meets (inside : trailIn? sectionKey key = some p) (inside' : trailIn? sectionKey other = some q)
    (meets : p.Meets q) (apart : key ≠ other) : isBelow key other = true ∨ isBelow other key = true := by
  simp only [isBelow_iff_components, components_of_trailIn inside, components_of_trailIn inside',
    List.prefix_append_right_inj]
  exact meets.imp (⟨·, apart⟩) (⟨·, apart.symm⟩)

namespace Flat

/-- The settings inside a section, under the components of what remains of their keys. -/
def trailsIn (flat : Flat) (sectionKey : String) : List (Trail × Value) :=
  flat.filterMap fun entry => (trailIn? sectionKey entry.1).map fun trail => (trail, entry.2)

theorem trailsIn_eq (flat : Flat) (sectionKey : String) : flat.trailsIn sectionKey =
    (flat.inSection sectionKey).map fun entry => (components entry.1.toList, entry.2) := by
  simp only [trailsIn, inSection, trailIn?, List.map_filterMap, Option.map_map]
  rfl

theorem nest_inSection (flat : Flat) (sectionKey : String) :
    (flat.inSection sectionKey).nest = .map (nestAll (flat.trailsIn sectionKey)) := by
  simp only [nest, nestAll, trailsIn_eq, List.foldl_map]

variable {flat before after : Flat}

/-- A key that is no setting itself reads the settings inside its section, if there are any. -/
theorem lookup?_of_isBelow (named : sectionKey ≠ "") (absent : Entries.get? flat sectionKey = none)
    (member : key ∈ Entries.keys flat) (below : isBelow sectionKey key = true) :
    flat.lookup? sectionKey = some (.map (nestAll (flat.trailsIn sectionKey))) := by
  obtain ⟨entry, there, rfl⟩ := List.mem_map.mp member
  obtain ⟨rest, inside⟩ := isBelow_iff.mp below
  have among : (rest, entry.2) ∈ flat.inSection sectionKey := List.mem_filterMap.mpr ⟨entry, there, by simp [inside]⟩
  have filled : (flat.inSection sectionKey).isEmpty = false := by simpa using List.ne_nil_of_mem among
  simp [lookup?, absent, named, nest?, filled, nest_inSection]

theorem keys_trailsIn (flat : Flat) (sectionKey : String) :
    Entries.keys (flat.trailsIn sectionKey) = (Entries.keys flat).filterMap (trailIn? sectionKey) := by
  simp only [Entries.keys, trailsIn, List.map_filterMap, List.filterMap_map, Option.map_map]
  congr 1
  funext entry
  simp [Function.comp_def]

theorem nodup_trailsIn (apart : (Entries.keys flat).Nodup) (sectionKey : String) :
    (Entries.keys (flat.trailsIn sectionKey)).Nodup := by
  rw [keys_trailsIn]
  exact apart.filterMap fun _ _ _ inside inside' => trailIn?_injective inside inside'

theorem get?_trailsIn (inside : trailIn? sectionKey key = some p) (flat : Flat) :
    Entries.get? (flat.trailsIn sectionKey) p = Entries.get? flat key := by
  induction flat with
  | nil => rfl
  | cons entry rest ih =>
    by_cases here : entry.1 = key
    · simp [trailsIn, Entries.get?, here, inside]
    · simp only [Entries.get?, here, if_false, ← ih, trailsIn, List.filterMap_cons]
      cases trail : trailIn? sectionKey entry.1 with
      | none => rfl
      | some q =>
        have other : q ≠ p := fun same => here (trailIn?_injective (same ▸ trail) inside)
        simp [Entries.get?, other]

theorem exists_key_of_get?_trailsIn {v : Value} (found : Entries.get? (flat.trailsIn sectionKey) p = some v) :
    ∃ key, trailIn? sectionKey key = some p := by
  obtain ⟨entry, _, trail⟩ := List.mem_filterMap.mp (Entries.mem_of_get? found)
  obtain ⟨own, inside, same⟩ := Option.map_eq_some_iff.mp trail
  cases same
  exact ⟨entry.1, inside⟩

theorem isEmpty_inSection_iff :
    (flat.inSection sectionKey).isEmpty = true ↔ ∀ p, Entries.get? (flat.trailsIn sectionKey) p = none := by
  rw [trailsIn_eq]
  cases flat.inSection sectionKey with
  | nil => simp [Entries.get?]
  | cons entry rest =>
    simp only [List.isEmpty_cons, Bool.false_eq_true, List.map_cons, false_iff]
    intro none
    simpa [Entries.get?] using none (components entry.1.toList)

/-- Two settings inside a section, one of which lies inside the other, have changed their order. -/
def Reordered (before after : Flat) (sectionKey : String) : Prop :=
  ∃ key other, isBelow sectionKey key = true ∧ isBelow sectionKey other = true ∧
    (isBelow key other = true ∨ isBelow other key = true) ∧
    [key, other].Sublist (Entries.keys before) ∧ [other, key].Sublist (Entries.keys after)

theorem Plain.spread (plain : Plain flat) (sectionKey : String) : Spread (flat.trailsIn sectionKey) := by
  refine ⟨fun entry member => ?_, nodup_trailsIn plain.apart sectionKey⟩
  obtain ⟨own, there, trail⟩ := List.mem_filterMap.mp member
  obtain ⟨p, inside, rfl⟩ := Option.map_eq_some_iff.mp trail
  obtain ⟨rest, _, rfl⟩ := Option.map_eq_some_iff.mp inside
  exact ⟨plain.leaves own there, splitAt_ne_nil '.' _⟩

/-- Trails in a section stand in the order of their keys. -/
theorem sublist_trailsIn (order : [p, q].Sublist (Entries.keys (flat.trailsIn sectionKey))) :
    ∃ key other, trailIn? sectionKey key = some p ∧ trailIn? sectionKey other = some q ∧
      [key, other].Sublist (Entries.keys flat) := by
  rw [keys_trailsIn] at order
  obtain ⟨part, within, same⟩ := List.sublist_filterMap_iff.mp order
  obtain ⟨_, key, rest, rfl, _, inside, more⟩ := List.filterMap_eq_cons_iff.mp same.symm
  obtain ⟨_, other, _, rfl, _, inside', _⟩ := List.filterMap_eq_cons_iff.mp more
  refine ⟨key, other, inside, inside', .trans ?_ within⟩
  exact .trans (.cons_cons key (List.singleton_sublist.mpr (by simp))) (List.sublist_append_right ..)

theorem steady_trails (steady : ¬ Reordered before after sectionKey) (apart : (Entries.keys before).Nodup)
    (p q : Trail) (meets : p.Meets q) (order : [p, q].Sublist (Entries.keys (before.trailsIn sectionKey))) :
    ¬ [q, p].Sublist (Entries.keys (after.trailsIn sectionKey)) := by
  intro order'
  obtain ⟨key, other, inside, inside', stood⟩ := sublist_trailsIn order
  obtain ⟨other', key', there', there, stands⟩ := sublist_trailsIn order'
  cases trailIn?_injective inside there
  cases trailIn?_injective inside' there'
  have two : key ≠ other := by
    rintro rfl
    exact absurd (apart.sublist stood) (by simp)
  exact steady ⟨key, other, isBelow_of_trailIn inside, isBelow_of_trailIn inside',
    isBelow_of_meets inside inside' meets two, stood, stands⟩

/-- A key that a change does not touch has equal values before and after, or none. -/
theorem relation_of_not_affects (elsewhere : affects (changedKeys before after) sectionKey = false)
    (touching : touches sectionKey key = true) :
    Option.Rel (fun v w => v.equal w = true) (Entries.get? before key) (Entries.get? after key) := by
  rcases sameAt_iff.mp (sameAt_of_not_affects elsewhere touching) with
    ⟨absent, absent'⟩ | ⟨v, w, held, found, alike⟩
  · rw [absent, absent']
    exact .none
  · rw [held, found]
    exact .some alike

theorem trails_alike (elsewhere : affects (changedKeys before after) sectionKey = false) (p : Trail) :
    Option.Rel (fun v w => v.same w = true) (Entries.get? (before.trailsIn sectionKey) p)
      (Entries.get? (after.trailsIn sectionKey) p) := by
  by_cases inside : ∃ key, trailIn? sectionKey key = some p
  · obtain ⟨key, inside⟩ := inside
    rw [get?_trailsIn inside, get?_trailsIn inside]
    have touching : touches sectionKey key = true := by simp [touches, isBelow_of_trailIn inside]
    have own := relation_of_not_affects elsewhere touching
    generalize Entries.get? before key = held, Entries.get? after key = held' at own
    cases own with
    | some equal => exact .some (Value.equal_iff.mp equal).1
    | none => exact .none
  · have absent (flat : Flat) : Entries.get? (flat.trailsIn sectionKey) p = none := by
      cases found : Entries.get? (flat.trailsIn sectionKey) p with
      | none => rfl
      | some v => exact absurd (exists_key_of_get?_trailsIn found) inside
    rw [absent, absent]
    exact .none

/-- Where no key of a section has changed and none of its settings that lie inside each other have changed
their order, the section reads the same. -/
theorem lookup?_same (plain : Plain before) (plain' : Plain after) (named : sectionKey ≠ "")
    (elsewhere : affects (changedKeys before after) sectionKey = false)
    (steady : ¬ Reordered before after sectionKey) :
    Option.Rel (fun v w => v.equal w = true) (before.lookup? sectionKey) (after.lookup? sectionKey) := by
  have here := relation_of_not_affects elsewhere (by simp [touches] : touches sectionKey sectionKey = true)
  have alike := trails_alike elsewhere
  have empty : (before.inSection sectionKey).isEmpty = (after.inSection sectionKey).isEmpty := by
    rw [Bool.eq_iff_iff, isEmpty_inSection_iff, isEmpty_inSection_iff]
    refine forall_congr' fun p => ?_
    have own := alike p
    generalize Entries.get? (before.trailsIn sectionKey) p = x, Entries.get? (after.trailsIn sectionKey) p = y at own
    cases own <;> simp
  unfold lookup?
  generalize Entries.get? before sectionKey = held, Entries.get? after sectionKey = held' at here
  cases here with
  | some equal => exact .some equal
  | none =>
    simp only [if_neg named, nest?, nest_inSection, empty]
    split
    · exact .none
    · exact .some (nestAll_same (plain.spread sectionKey) (plain'.spread sectionKey) alike
        (steady_trails steady plain.apart))

end Flat

end LayeredSettings

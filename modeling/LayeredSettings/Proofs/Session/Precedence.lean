import LayeredSettings.Proofs.Session.SectionChange
import LayeredSettings.Proofs.Store.Navigation

namespace LayeredSettings

/-- What stands behind an element in a list without repetitions. -/
theorem mem_of_pair_sublist {α : Type} {front back : List α} {x y : α} (apart : (front ++ x :: back).Nodup)
    (order : [x, y].Sublist (front ++ x :: back)) : y ∈ back := by
  induction front with
  | nil =>
    rcases List.sublist_cons_iff.mp order with later | ⟨rest, same, behind⟩
    · exact absurd (later.subset (List.mem_cons_self ..)) (List.nodup_cons.mp apart).1
    · cases same
      exact List.singleton_sublist.mp behind
  | cons first front ih =>
    obtain ⟨fresh, apart⟩ := List.nodup_cons.mp apart
    rcases List.sublist_cons_iff.mp order with later | ⟨rest, same, _⟩
    · exact ih apart later
    · cases same
      exact absurd (by simp) fresh

namespace Layers

variable {layers : Layers} {key other : String} {top : Layer} {v : Value}

/-- Whether a layer holds a key or one inside the section that it names. -/
def reaches (layers : Layers) (key : String) (layer : Layer) : Bool :=
  (layers.get layer).any fun entry => isWithin key entry.1

/-- The highest layer that holds a key or one inside the section that it names. -/
def topmost? (layers : Layers) (key : String) : Option Layer := Layer.all.reverse.find? (layers.reaches key)

theorem reaches_of_get? (near : isWithin key other = true) {layer : Layer}
    (found : Entries.get? (layers.get layer) other = some v) : layers.reaches key layer = true :=
  List.any_eq_true.mpr ⟨_, Entries.mem_of_get? found, near⟩

/-- No layer above the topmost one has a say at a key or inside its section. -/
theorem highest?_of_topmost (topmost : layers.topmost? key = some top) (near : isWithin key other = true)
    (found : Entries.get? (layers.get top) other = some v) : layers.highest? other = some v := by
  obtain ⟨_, above, below, whole, clear⟩ := List.find?_eq_some_iff_append.mp topmost
  have silent : (above.findSome? fun layer => Entries.get? (layers.get layer) other) = none := by
    refine List.findSome?_eq_none_iff.mpr fun layer member => ?_
    cases held : Entries.get? (layers.get layer) other with
    | none => rfl
    | some w => simpa [reaches_of_get? near held] using clear layer member
  rw [highest?, whole, List.findSome?_append, silent, Option.none_or, List.findSome?_cons, found]

end Layers

namespace Flat

variable {flat : Flat} {sectionKey key other : String} {p q : Trail} {v : Value}

/-- Behind a setting stands another one in the section that lies inside it, or that it lies inside. -/
def Overwritten (flat : Flat) (sectionKey key : String) : Prop :=
  ∃ other, isBelow sectionKey other = true ∧ (isBelow key other = true ∨ isBelow other key = true) ∧
    [key, other].Sublist (Entries.keys flat)

theorem exists_trailIn (below : isBelow sectionKey key = true) : ∃ p, trailIn? sectionKey key = some p := by
  obtain ⟨rest, inside⟩ := isBelow_iff.mp below
  exact ⟨components rest.toList, by rw [trailIn?, inside, Option.map_some]⟩

theorem meets_of_isBelow (inside : trailIn? sectionKey key = some p) (inside' : trailIn? sectionKey other = some q)
    (near : isBelow key other = true ∨ isBelow other key = true) : q.Meets p := by
  simp only [isBelow_iff_components, components_of_trailIn inside, components_of_trailIn inside',
    List.prefix_append_right_inj] at near
  exact near.symm.imp And.left And.left

/-- A setting is found in the section that is read if none that it shares a trail with is written after it. -/
theorem leafAt?_section (plain : flat.Plain) (inside : trailIn? sectionKey key = some p)
    (found : Entries.get? flat key = some v) :
    Value.leafAt? p (.map (nestAll (flat.trailsIn sectionKey))) = some v ↔ ¬ flat.Overwritten sectionKey key := by
  have spread := plain.spread sectionKey
  have apart := spread.apart
  rw [leafAt?_nestAll spread.leaves]
  constructor
  · rintro ⟨earlier, later, whole, clear⟩ ⟨other, below, near, order⟩
    obtain ⟨q, inside'⟩ := exists_trailIn below
    have placed : [p, q].Sublist (Entries.keys (flat.trailsIn sectionKey)) := by
      rw [keys_trailsIn]
      simpa [inside, inside'] using order.filterMap (trailIn? sectionKey)
    have keys : Entries.keys (flat.trailsIn sectionKey) = Entries.keys earlier ++ p :: Entries.keys later := by
      simp [whole, Entries.keys]
    rw [keys] at placed apart
    obtain ⟨entry, member, rfl⟩ := List.mem_map.mp (mem_of_pair_sublist apart placed)
    exact clear entry member (meets_of_isBelow inside inside' near)
  · intro kept
    obtain ⟨earlier, later, whole⟩ := List.append_of_mem (Entries.mem_of_get? ((get?_trailsIn inside flat).trans found))
    refine ⟨earlier, later, whole, fun entry member meets => kept ?_⟩
    have placed : [p, entry.1].Sublist (Entries.keys (flat.trailsIn sectionKey)) := by
      have behind := List.singleton_sublist.mpr (List.mem_map_of_mem (f := Prod.fst) member)
      rw [whole, Entries.keys, List.map_append, List.map_cons]
      exact (behind.cons_cons p).trans (List.sublist_append_right ..)
    obtain ⟨own, other, inside', there, order⟩ := sublist_trailsIn placed
    cases trailIn?_injective inside' inside
    have two : other ≠ key := by
      rintro rfl
      exact absurd (plain.apart.sublist order) (by simp)
    exact ⟨other, isBelow_of_trailIn there, (isBelow_of_meets there inside meets two).symm, order⟩

end Flat

namespace Course

variable {start : World} {past : List Machine} {m : Machine} {key : String} {top : Layer}

/-- A setting of the topmost layer that reaches to a key is in force. If it stands at the key, the key reads it. If
none of that layer does, but one of a layer below, the key reads the highest of those. Otherwise the key reads a
mapping, in which a setting of the topmost layer is found unless another one in the section that lies inside it, or
that it lies inside, stands behind it among the settings in force. -/
theorem get_layered (course : Course start past m) (layered : start.Layered) (flattened : start.Flattened)
    (settled : Machine.settled past = true) (named : key ≠ "") (topmost : m.world.layers.topmost? key = some top)
    (default : Value) :
    (∀ v, Entries.get? (m.world.layers.get top) key = some v → m.world.run (.get key default) = (m.world, .ok v)) ∧
    (∀ v, Entries.get? (m.world.layers.get top) key = none → m.world.layers.highest? key = some v →
      m.world.run (.get key default) = (m.world, .ok v)) ∧
    (m.world.layers.highest? key = none → ∃ entries, m.world.run (.get key default) = (m.world, .ok (.map entries)) ∧
      ∀ other v p, Entries.get? (m.world.layers.get top) other = some v → trailIn? key other = some p →
        (Value.leafAt? p (.map entries) = some v ↔ ¬ Flat.Overwritten m.world.settings key other)) := by
  obtain ⟨tidy, inForce⟩ := course.layered layered settled
  have plain := (course.flattened flattened).settings
  have held (other : String) : Entries.get? m.world.settings other = m.world.layers.highest? other := by
    rw [inForce, tidy.get?_effective]
  have reads (v : Value) (found : m.world.layers.highest? key = some v) :
      m.world.run (.get key default) = (m.world, .ok v) := World.run_get_of_get? ((held key).trans found) default
  have itself : isWithin key key = true := isWithin_iff.mpr (.inl rfl)
  refine ⟨fun v here => reads v (Layers.highest?_of_topmost topmost itself here), fun v _ found => reads v found,
    fun absent => ⟨Flat.nestAll (Flat.trailsIn m.world.settings key), ?_, fun other v p here inside => ?_⟩⟩
  · have reach : m.world.layers.reaches key top = true := List.find?_some topmost
    obtain ⟨entry, there, near⟩ := List.any_eq_true.mp reach
    have known : entry.1 ∈ Entries.keys m.world.settings := by
      rw [inForce, tidy.mem_keys_effective]
      exact ⟨top, List.mem_map_of_mem there⟩
    have other : entry.1 ≠ key := by
      intro same
      obtain ⟨v, found⟩ := Entries.mem_keys_iff.mp (same ▸ known)
      rw [held, absent] at found
      cases found
    have below : isBelow key entry.1 = true := (isWithin_iff.mp near).resolve_left other
    rw [World.run_get, Flat.lookup?_of_isBelow named ((held key).trans absent) known below, Option.getD_some]
  · have near := isWithin_iff.mpr (.inr (isBelow_of_trailIn inside))
    exact Flat.leafAt?_section plain inside ((held other).trans (Layers.highest?_of_topmost topmost near here))

end Course

/-- Settings of one section in three layers. -/
def sectionLayers (machine user project : List (Scalar × Value)) : List Machine × Machine :=
  (({} : World).doing (.setLayers [("machine", machine), ("user", user), ("project", project)])).play 40 [] []

/-- A setting of the highest layer takes the place of a mapping of the lowest one. -/
def sectionSettled : List Machine × Machine :=
  sectionLayers [(.text "a", .map [(.text "c", .map [(.text "d", .scalar (.int 1))])])]
    [(.text "a.b", .scalar (.int 2))] [(.text "a.c", .scalar (.int 3))]

/-- A setting of the topmost layer makes room for itself in the section, as it stands behind one that lies
inside it. -/
theorem get_layered_section : ∃ past m entries, Course {} past m ∧ m.world.layers.topmost? "a" = some .project ∧
    m.world.run (.get "a" .null) = (m.world, .ok (.map entries)) ∧
    Value.leafAt? [['c']] (.map entries) = some (.scalar (.int 3)) := by
  have course : Course {} sectionSettled.1 sectionSettled.2 := (Course.start _).play 40 []
  have own : Entries.get? (sectionSettled.2.world.layers.get .project) "a.c" = some (.scalar (.int 3)) := rfl
  have now : Machine.settled sectionSettled.1 = true ∧ sectionSettled.2.world.layers.topmost? "a" = some .project ∧
      (sectionSettled.2.world.layers.highest? "a").isNone = true ∧
      Entries.keys sectionSettled.2.world.settings = ["a.c.d", "a.b", "a.c"] := ⟨rfl, rfl, rfl, rfl⟩
  generalize sectionSettled = session at course own now
  obtain ⟨settled, topmost, absent, order⟩ := now
  obtain ⟨_, _, inSection⟩ :=
    course.get_layered World.layered_empty World.flattened_empty settled (by decide) topmost .null
  obtain ⟨entries, read, kept⟩ := inSection (Option.isNone_iff_eq_none.mp absent)
  have inside : trailIn? "a" "a.c" = some [['c']] := rfl
  refine ⟨_, _, entries, course, topmost, read, (kept "a.c" _ [['c']] own inside).mpr ?_⟩
  rintro ⟨other, _, _, behind⟩
  rw [order] at behind
  exact absurd (@mem_of_pair_sublist _ ["a.c.d", "a.b"] [] _ _ (by decide) behind) List.not_mem_nil

/-- A setting of a lower layer keeps the section of a higher one from being read, and a setting of the topmost layer is
lost where one of a lower layer that it lies inside stands behind it. -/
theorem get_layered_hidden :
    (∃ past m v, Course {} past m ∧ Machine.settled past = true ∧ m.world.layers.topmost? "a" = some .user ∧
      Entries.keys (m.world.layers.get .user) = ["a.b"] ∧ m.world.run (.get "a" .null) = (m.world, .ok v) ∧
      v.isLeaf = true) ∧
    ∃ past m v, Course {} past m ∧ Machine.settled past = true ∧ m.world.layers.topmost? "a" = some .project ∧
      Entries.keys (m.world.layers.get .project) = ["a.b.c"] ∧ m.world.run (.get "a" .null) = (m.world, .ok v) ∧
      Value.leafAt? [['b'], ['c']] v = none := by
  refine ⟨⟨_, (sectionLayers [(.text "a", .scalar (.int 1))] [(.text "a.b", .scalar (.int 2))] []).2, _,
      (Course.start _).play 40 [], rfl, rfl, rfl, World.run_get .., rfl⟩,
    _, (sectionLayers [(.text "a.b.c", .scalar (.int 1))] [(.text "a.b", .scalar (.int 2))]
      [(.text "a.b.c", .scalar (.int 3))]).2, _,
      (Course.start _).play 40 [], rfl, rfl, rfl, World.run_get .., rfl⟩

end LayeredSettings

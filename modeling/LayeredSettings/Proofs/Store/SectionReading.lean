import LayeredSettings.Proofs.Store.Sections
import LayeredSettings.Proofs.Store.Writing

namespace LayeredSettings

/-- Where a key stands, entries are written in its place. -/
theorem Entries.put_of_get? {κ ν : Type} [DecidableEq κ] {entries : Entries κ ν} {key : κ} {v : ν}
    (found : entries.get? key = some v) : ∃ front back, entries = front ++ (key, v) :: back ∧
      ∀ w, entries.put key w = front ++ (key, w) :: back := by
  induction entries with
  | nil => cases found
  | cons entry rest ih =>
    by_cases here : entry.1 = key
    · obtain ⟨own, held⟩ := entry
      simp only at here
      subst here
      simp only [get?, if_true, Option.some.injEq] at found
      subst found
      exact ⟨[], rest, rfl, fun w => by simp [put, putBy]⟩
    · rw [get?, if_neg here] at found
      obtain ⟨front, back, rfl, written⟩ := ih found
      refine ⟨entry :: front, back, rfl, fun w => ?_⟩
      have later := written w
      simp only [put] at later
      simp [put, putBy, here, later]

theorem entryLeaves_append (front rest : List (Scalar × Value)) :
    entryLeaves (front ++ rest) = entryLeaves front ++ entryLeaves rest := by
  induction front with
  | nil => simp [entryLeaves]
  | cons entry front ih => simp only [List.cons_append, entryLeaves, ih, List.append_assoc]

namespace Flat

variable {node : List (Scalar × Value)} {s : String} {v : Value}

/-- The leaves below a name, none if nothing stands there. -/
def leavesAt (node : List (Scalar × Value)) (s : String) : List (Trail × Value) :=
  ((Entries.get? node (.text s)).map (leavesUnder s)).getD []

theorem mem_of_mem_leavesAt {leaf : Trail × Value} (member : leaf ∈ leavesAt node s) : leaf ∈ entryLeaves node := by
  unfold leavesAt at member
  cases found : Entries.get? node (.text s) with
  | none => simp [found] at member
  | some v =>
    rw [found] at member
    obtain ⟨front, back, rfl, _⟩ := Entries.put_of_get? found
    rw [entryLeaves_append, entryLeaves_cons]
    exact List.mem_append_right _ (List.mem_append_left _ member)

theorem mem_leavesAt {held : Value} (found : Entries.get? node (.text s) = some held) {leaf : Trail × Value}
    (member : leaf ∈ held.leaves) : (s.toList :: leaf.1, leaf.2) ∈ leavesAt node s := by
  simp only [leavesAt, found, Option.map_some, Option.getD_some]
  exact List.mem_map_of_mem member

/-- What is written under a name adds to the leaves of the whole what it adds to those below the name. -/
theorem entryLeaves_put {leaf : Trail × Value} (added : (leavesUnder s v).Perm (leaf :: leavesAt node s)) :
    (entryLeaves (Entries.put node (.text s) v)).Perm (leaf :: entryLeaves node) := by
  unfold leavesAt at added
  cases found : Entries.get? node (.text s) with
  | none =>
    have fresh : Scalar.text s ∉ Entries.keys node := by
      intro member
      obtain ⟨held, there⟩ := Entries.mem_keys_iff.mp member
      rw [found] at there
      cases there
    rw [found, Option.map_none, Option.getD_none] at added
    rw [Entries.put_of_not_mem fresh, entryLeaves_append, entryLeaves_cons]
    simpa [entryLeaves] using (added.append_left (entryLeaves node)).trans (List.perm_append_singleton _ _)
  | some held =>
    obtain ⟨front, back, rfl, put⟩ := Entries.put_of_get? found
    rw [found, Option.map_some, Option.getD_some] at added
    rw [put, entryLeaves_append, entryLeaves_append, entryLeaves_cons, entryLeaves_cons]
    exact ((added.append_right _).append_left _).trans List.perm_middle

namespace Grown

/-- What stands under a key is a leaf or a tree that is not empty. -/
theorem inside (grown : Grown node) {key : Scalar} (member : (key, v) ∈ node) :
    v.isLeaf = true ∨ ∃ inner, v = .map inner ∧ inner ≠ [] ∧ Grown inner := by
  cases grown with
  | node _ _ full grown =>
    refine v.leaf_or_map.imp_right ?_
    rintro ⟨inner, rfl⟩
    exact ⟨inner, rfl, full key inner member, grown key inner member⟩

/-- A leaf that is placed where no other one stands along its trail is added to those that are there. -/
theorem entryLeaves_insertPath (grown : Grown node) (leaf : v.isLeaf = true) {p : Trail} (placed : p ≠ [])
    (clear : ∀ other ∈ entryLeaves node, ¬ other.1.Meets p) :
    (entryLeaves (Flat.insertPath p v node)).Perm ((p, v) :: entryLeaves node) := by
  induction p generalizing node with
  | nil => exact absurd rfl placed
  | cons part rest ih =>
    obtain ⟨s, rfl⟩ : ∃ s : String, part = s.toList := ⟨String.ofList part, by simp⟩
    have apart {tail : Trail} {w : Value} (there : (s.toList :: tail, w) ∈ leavesAt node s) : ¬ tail.Meets rest :=
      fun meets => clear _ (mem_of_mem_leavesAt there) (Trail.meets_cons.mpr ⟨rfl, meets⟩)
    by_cases more : rest = []
    · subst more
      -- A leaf here or below would be met by a trail that ends here.
      have blank : leavesAt node s = [] := by
        cases found : Entries.get? node (.text s) with
        | none => simp [leavesAt, found]
        | some held =>
          have some : held.leaves ≠ [] := by
            rcases grown.inside (Entries.mem_of_get? found) with leaf | ⟨inner, rfl, full, grown⟩
            · simp [Value.leaves_of_leaf leaf]
            · rw [Value.leaves]
              exact grown.entryLeaves_ne_nil full
          obtain ⟨other, member⟩ := List.exists_mem_of_ne_nil _ some
          exact absurd (.inr List.nil_prefix) (apart (mem_leavesAt found member))
      have added : (leavesUnder s v).Perm (([s.toList], v) :: leavesAt node s) := by
        simp [blank, leavesUnder, Value.leaves_of_leaf leaf]
      simpa [Flat.insertPath] using entryLeaves_put added
    · -- A leaf here would be met by a trail that goes on: a mapping stands here, or nothing.
      have below : leavesAt node s = leavesUnder s (.map (Flat.innerAt node s.toList)) := by
        cases found : Entries.get? node (.text s) with
        | none => simp [leavesAt, Flat.innerAt, found, leavesUnder, Value.leaves, entryLeaves]
        | some held =>
          rcases held.leaf_or_map with leaf | ⟨inner, rfl⟩
          · have here : ([], held) ∈ held.leaves := by simp [Value.leaves_of_leaf leaf]
            have there := mem_leavesAt found here
            exact absurd (.inl List.nil_prefix) (apart there)
          · simp [leavesAt, Flat.innerAt, found]
      rw [leavesUnder, Value.leaves] at below
      have free (other : Trail × Value) (member : other ∈ entryLeaves (Flat.innerAt node s.toList)) :
          ¬ other.1.Meets rest := by
        have there : (s.toList :: other.1, other.2) ∈ leavesAt node s := below ▸ List.mem_map_of_mem member
        exact apart there
      have within := ih (grown.innerAt s.toList) more free
      have added : (leavesUnder s (.map (Flat.insertPath rest v (Flat.innerAt node s.toList)))).Perm
          ((s.toList :: rest, v) :: leavesAt node s) := by
        rw [leavesUnder, Value.leaves, below]
        exact within.map fun leaf => (s.toList :: leaf.1, leaf.2)
      rw [insertPath_cons _ more, String.ofList_toList]
      exact entryLeaves_put added

/-- A tree whose leaves are no mappings can be taken apart. -/
theorem spelled (grown : Grown node) (leaves : ∀ leaf ∈ entryLeaves node, leaf.2.isMapping = false) :
    Spelled (fun _ => True) node := by
  induction grown with
  | @node entries texts apart full grown ih =>
    clear apart full grown
    induction entries with
    | nil => exact .nil
    | cons entry rest later =>
      obtain ⟨key, v⟩ := entry
      obtain ⟨s, rfl⟩ := texts _ (List.mem_cons_self ..)
      rw [entryLeaves_cons] at leaves
      have behind : Spelled (fun _ => True) rest := by
        exact later (fun other member => texts other (List.mem_cons_of_mem _ member))
          (fun key inner member => ih key inner (List.mem_cons_of_mem _ member))
          fun leaf member => leaves leaf (List.mem_append_right _ member)
      have first (leaf : Trail × Value) (member : leaf ∈ v.leaves) : leaf.2.isMapping = false :=
        leaves (s.toList :: leaf.1, leaf.2) (List.mem_append_left _ (List.mem_map_of_mem member))
      rcases v.leaf_or_map with leaf | ⟨inner, rfl⟩
      · exact .leaf trivial (first ([], v) (by simp [Value.leaves_of_leaf leaf])) behind
      · rw [Value.leaves] at first
        exact .inner trivial (ih _ inner (List.mem_cons_self ..) first) behind

end Grown

/-- Leaves that are placed along trails of which none leads along another one are the leaves of the tree. -/
theorem entryLeaves_nestAll {placed : List (Trail × Value)}
    (leaves : ∀ entry ∈ placed, entry.2.isLeaf = true ∧ entry.1 ≠ [])
    (apart : placed.Pairwise fun one other => ¬ one.1.Meets other.1) :
    (entryLeaves (nestAll placed)).Perm placed := by
  induction placed using List.reverseRecOn with
  | nil => simp [nestAll, entryLeaves]
  | append_singleton front entry ih =>
    rw [List.pairwise_append] at apart
    have before := ih (fun other member => leaves other (by simp [member])) apart.1
    obtain ⟨leaf, some⟩ := leaves entry (by simp)
    have ends (other : Trail × Value) (member : other ∈ front) := (leaves other (by simp [member])).1
    have grown := Grown.nestAll ends
    rw [nestAll_append]
    calc (entryLeaves (insertPath entry.1 entry.2 (nestAll front))).Perm (entry :: entryLeaves (nestAll front)) :=
          grown.entryLeaves_insertPath leaf some fun other member =>
            apart.2.2 other (before.mem_iff.mp member) entry (by simp)
      _ |>.Perm (entry :: front) := before.cons entry
      _ |>.Perm (front ++ [entry]) := (List.perm_append_singleton entry front).symm

section Section

variable {flat : Flat} {s : String}

theorem dotted_of_trailIn {key : String} {p : Trail} (inside : trailIn? s key = some p) :
    dotted (s.toList :: p) = key := by
  obtain ⟨rest, below, rfl⟩ := Option.map_eq_some_iff.mp inside
  have some : components rest.toList ≠ [] := splitAt_ne_nil '.' _
  rw [← String.toList_inj, dotted_cons _ some, below?_eq_some_iff.mp below, dotted, String.toList_ofList]
  simp only [components, joinWith_splitAt]

/-- The settings inside a section have their keys again where they stand under it. -/
theorem keyed_trailsIn (flat : Flat) (s : String) :
    keyed [s.toList] (flat.trailsIn s) = flat.filter fun entry => isBelow s entry.1 := by
  induction flat with
  | nil => rfl
  | cons entry rest ih =>
    simp only [keyed, trailsIn, List.filterMap_cons, List.filter_cons] at ih ⊢
    cases inside : trailIn? s entry.1 with
    | none =>
      have outside : isBelow s entry.1 = false := by simpa [trailIn?, isBelow] using inside
      simpa [outside] using ih
    | some p =>
      have within := isBelow_of_trailIn inside
      have named := dotted_of_trailIn inside
      simpa [within, named] using ih

/-- Where no setting lies inside another one, no two trails in a section lead along each other. -/
theorem pairwise_trailsIn (apart : (Entries.keys flat).Nodup)
    (free : ∀ key ∈ Entries.keys flat, ∀ other ∈ Entries.keys flat, isBelow key other = false) (s : String) :
    (flat.trailsIn s).Pairwise fun one other => ¬ one.1.Meets other.1 := by
  rw [trailsIn, List.pairwise_filterMap]
  refine (List.pairwise_map.mp apart).imp_of_mem ?_
  intro one other here there different p first q second meets
  obtain ⟨p, inside, rfl⟩ := Option.map_eq_some_iff.mp first
  obtain ⟨q, inside', rfl⟩ := Option.map_eq_some_iff.mp second
  have member := List.mem_map_of_mem (f := Prod.fst) here
  have member' := List.mem_map_of_mem (f := Prod.fst) there
  rcases isBelow_of_meets inside inside' meets different with below | below
  · rw [free _ member _ member'] at below
    cases below
  · rw [free _ member' _ member] at below
    cases below

/-- A section that is read has lost no setting: taken apart again it holds exactly the settings inside it, with
their keys and values, whatever the components of the keys are and in whichever order they stand. -/
theorem section_kept (apart : (Entries.keys flat).Nodup)
    (valued : ∀ entry ∈ flat, entry.2.isMapping = false ∧ entry.2 ≠ .null)
    (free : ∀ key ∈ Entries.keys flat, ∀ other ∈ Entries.keys flat, isBelow key other = false)
    (named : s ≠ "") (absent : s ∉ Entries.keys flat) (inhabited : ∃ key ∈ Entries.keys flat, isBelow s key = true) :
    ∃ m, flat.lookup? s = some (.map m) ∧ entriesFault? m = none ∧
      (flatten s m).Perm (flat.filter fun entry => isBelow s entry.1) := by
  have plain : Plain flat := ⟨fun entry member => (Value.isMapping_eq_false.mp (valued entry member).1).1, apart⟩
  have spread := plain.spread s
  have leaves := entryLeaves_nestAll spread.leaves (pairwise_trailsIn apart free s)
  have value (leaf : Trail × Value) (member : leaf ∈ entryLeaves (nestAll (flat.trailsIn s))) :
      leaf.2.isMapping = false ∧ leaf.2 ≠ .null := by
    obtain ⟨entry, there, trail⟩ := List.mem_filterMap.mp (leaves.mem_iff.mp member)
    obtain ⟨p, _, rfl⟩ := Option.map_eq_some_iff.mp trail
    exact valued entry there
  have grown := Grown.nestAll fun entry member => (spread.leaves entry member).1
  have spelled := grown.spelled fun leaf member => (value leaf member).1
  have settings : settingLeaves (nestAll (flat.trailsIn s)) = entryLeaves (nestAll (flat.trailsIn s)) := by
    refine List.filter_eq_self.mpr fun leaf member => ?_
    rw [Value.isNull_eq_false.mpr (value leaf member).2, Bool.not_false]
  have whole : (keyed [s.toList] (entryLeaves (nestAll (flat.trailsIn s)))).Perm
      (flat.filter fun entry => isBelow s entry.1) := by
    rw [← keyed_trailsIn]
    exact leaves.map _
  have distinct : (Entries.keys (keyed [s.toList] (entryLeaves (nestAll (flat.trailsIn s))))).Nodup :=
    (whole.map Prod.fst).nodup_iff.mpr (apart.sublist (List.filter_sublist.map Prod.fst))
  refine ⟨nestAll (flat.trailsIn s), ?_, spelled.entriesFault?_eq_none, ?_⟩
  · obtain ⟨key, member, below⟩ := inhabited
    exact lookup?_of_isBelow named (Entries.get?_of_not_mem absent) member below
  · rw [spelled.flatten_eq (.inl named), root, if_neg named, settings, Entries.merge_of_apart (by simpa using distinct),
      List.nil_append]
    exact whole

/-- Settings of two sections among each other, with components that are empty. -/
def scattered : Flat :=
  [("s.b.c", .list [.null]), ("st.b", .text "other"), ("s..x", .scalar (.int 1)), ("t", .scalar (.bool true)),
    ("s.b.", .text "")]

/-- The settings of one section move together, and all of them are there. -/
theorem section_kept_scattered :
    (∀ key ∈ Entries.keys scattered, ∀ other ∈ Entries.keys scattered, isBelow key other = false) ∧
    ∃ m, scattered.lookup? "s" = some (.map m) ∧ Entries.keys m = [.text "b", .text ""] ∧
      (flatten "s" m).Perm [("s.b.c", .list [.null]), ("s..x", .scalar (.int 1)), ("s.b.", .text "")] := by
  have free : ∀ key ∈ Entries.keys scattered, ∀ other ∈ Entries.keys scattered, isBelow key other = false := by
    decide +kernel
  have valued : ∀ entry ∈ scattered, entry.2.isMapping = false ∧ entry.2 ≠ .null := by
    simp [scattered, Value.isMapping, Value.null, Value.text]
  obtain ⟨m, read, _, same⟩ := @section_kept scattered "s" (by decide +kernel) valued free (by decide)
    (by decide +kernel) ⟨"s..x", by decide +kernel, by decide +kernel⟩
  refine ⟨free, m, read, ?_, same⟩
  have shape : scattered.lookup? "s" = some (.map [(.text "b", .map [(.text "c", .list [.null]), (.text "", .text "")]),
      (.text "", .map [(.text "x", .scalar (.int 1))])]) := rfl
  rw [shape] at read
  cases read
  rfl

end Section

end Flat

end LayeredSettings

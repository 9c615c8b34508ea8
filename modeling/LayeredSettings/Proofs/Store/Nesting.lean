import LayeredSettings.Proofs.Value.Equality
import LayeredSettings.Store.Flat
import Mathlib.Data.List.Induction

namespace LayeredSettings

/-- The components of a dotted key, along which nested mappings are walked. -/
abbrev Trail := List (List Char)

/-- One of two trails leads along the other. -/
def Trail.Meets (p q : Trail) : Prop := p <+: q ∨ q <+: p

theorem Trail.Meets.symm {p q : Trail} (meets : p.Meets q) : q.Meets p := Or.symm meets

instance (p q : Trail) : Decidable (p.Meets q) := inferInstanceAs (Decidable (_ ∨ _))

theorem Trail.meets_cons {part part' : List Char} {p q : Trail} :
    Meets (part :: p) (part' :: q) ↔ part = part' ∧ p.Meets q := by
  simp only [Meets, List.cons_prefix_cons, eq_comm (a := part')]
  exact and_or_left.symm

/-- An element after which all satisfy `P` stands last, or before a last one that does. -/
theorem last_append_iff {α : Type} {P : α → Prop} {xs : List α} {x y : α} :
    (∃ earlier later, xs ++ [y] = earlier ++ x :: later ∧ ∀ z ∈ later, P z) ↔
      y = x ∨ P y ∧ ∃ earlier later, xs = earlier ++ x :: later ∧ ∀ z ∈ later, P z := by
  constructor
  · rintro ⟨earlier, later, whole, all⟩
    rcases later.eq_nil_or_concat with rfl | ⟨others, last, rfl⟩
    · exact .inl (List.singleton_inj.mp (List.append_inj_right' whole rfl))
    · rw [List.concat_eq_append, ← List.cons_append, ← List.append_assoc] at whole
      obtain ⟨front, same⟩ := List.append_inj' whole rfl
      cases same
      exact .inr ⟨all y (by simp), earlier, others, front, fun z member => all z (by simp [member])⟩
  · rintro (rfl | ⟨last, earlier, later, rfl, all⟩)
    · exact ⟨xs, [], rfl, fun _ member => nomatch member⟩
    · refine ⟨earlier, later ++ [y], by simp, fun z member => ?_⟩
      rcases List.mem_append.mp member with old | new
      · exact all z old
      · rw [List.mem_singleton.mp new]
        exact last

namespace Value

/-- A value that is no mapping. -/
def isLeaf : Value → Bool
  | .map _ => false
  | _ => true

/-- The leaf that a trail through nested mappings ends at. -/
def leafAt? : Trail → Value → Option Value
  | [], v => if v.isLeaf then some v else none
  | part :: rest, .map entries => (Entries.get? entries (.text (String.ofList part))).bind (leafAt? rest)
  | _ :: _, _ => none

theorem leafAt?_empty (q : Trail) : leafAt? q (.map []) = none := by cases q <;> rfl

theorem leafAt?_of_leaf {v : Value} (leaf : v.isLeaf = true) (q : Trail) :
    leafAt? q v = if q = [] then some v else none := by
  cases q with
  | nil => simp [leafAt?, leaf]
  | cons => cases v <;> simp_all [leafAt?, isLeaf]

/-- Two values have leaves at the same trails, and equal ones. -/
def SameLeaves (v w : Value) : Prop := ∀ q, Option.Rel (fun x y => x.same y = true) (leafAt? q v) (leafAt? q w)

theorem SameLeaves.isSome_eq {v w : Value} (leaves : SameLeaves v w) (q : Trail) :
    (leafAt? q v).isSome = (leafAt? q w).isSome := by
  have alike := leaves q
  generalize leafAt? q v = leaf, leafAt? q w = leaf' at alike
  cases alike <;> rfl

/-- Values one of which is no mapping are equal if they have the same leaves. -/
theorem SameLeaves.same_of_leaf {v w : Value} (leaves : SameLeaves v w) (leaf : v.isLeaf = true ∨ w.isLeaf = true) :
    v.same w = true := by
  have here := leaves []
  simp only [leafAt?] at here
  cases first : v.isLeaf <;> cases second : w.isLeaf <;> simp only [first, second] at leaf here
  · simp at leaf
  · cases here
  · cases here
  · cases here
    assumption

end Value

namespace Flat

open Value

/-- The mapping that stands under a key, an empty one if there is none. -/
def innerAt (node : List (Scalar × Value)) (part : List Char) : List (Scalar × Value) :=
  match Entries.get? node (.text (String.ofList part)) with
  | some (.map entries) => entries
  | _ => []

theorem insertPath_cons (part : List Char) {rest : Trail} (more : rest ≠ []) (v : Value)
    (node : List (Scalar × Value)) : insertPath (part :: rest) v node =
      Entries.put node (.text (String.ofList part)) (.map (insertPath rest v (innerAt node part))) := by
  cases rest with
  | nil => exact absurd rfl more
  | cons next others => rfl

theorem leafAt?_innerAt (part : List Char) {rest : Trail} (more : rest ≠ []) (node : List (Scalar × Value)) :
    leafAt? rest (.map (innerAt node part)) = leafAt? (part :: rest) (.map node) := by
  simp only [innerAt, leafAt?]
  cases found : Entries.get? node (.text (String.ofList part)) with
  | none => exact leafAt?_empty rest
  | some v =>
    cases v with
    | map entries => rfl
    | _ =>
      rw [leafAt?_empty, Option.bind_some, leafAt?_of_leaf rfl, if_neg more]

/-- A leaf is placed at the end of its trail, and takes away what stands along the trail. -/
theorem leafAt?_insertPath {v : Value} (leaf : v.isLeaf = true) {p : Trail} (placed : p ≠ []) (q : Trail)
    (node : List (Scalar × Value)) : leafAt? q (.map (insertPath p v node)) =
      if p = q then some v else if p.Meets q then none else leafAt? q (.map node) := by
  induction p generalizing q node with
  | nil => exact absurd rfl placed
  | cons part rest ih =>
    cases q with
    | nil => simp [leafAt?, isLeaf, Trail.Meets]
    | cons part' q' =>
      have key : Scalar.text (String.ofList part') = .text (String.ofList part) ↔ part = part' := by
        rw [Scalar.text.injEq, String.ofList_inj, eq_comm]
      by_cases more : rest = []
      · subst more
        simp only [insertPath, leafAt?, Entries.get?_put, key, Trail.meets_cons, List.cons.injEq]
        by_cases same : part = part'
        · simp [same, leafAt?_of_leaf leaf, eq_comm, Trail.Meets]
        · simp [same]
      · rw [insertPath_cons part more]
        simp only [leafAt?, Entries.get?_put, key, Trail.meets_cons, List.cons.injEq]
        by_cases same : part = part'
        · subst same
          simp only [if_true, Option.bind_some, true_and, ih more]
          by_cases meets : Trail.Meets rest q'
          · simp [meets]
          · have further : q' ≠ [] := by
              rintro rfl
              exact meets (.inr List.nil_prefix)
            rw [if_neg meets, if_neg meets, leafAt?_innerAt part further]
            rfl
        · simp [same]

/-- The nested mapping of leaves that are placed one after the other. -/
def nestAll (entries : List (Trail × Value)) : List (Scalar × Value) :=
  entries.foldl (fun node entry => insertPath entry.1 entry.2 node) []

theorem nestAll_append (entries : List (Trail × Value)) (entry : Trail × Value) :
    nestAll (entries ++ [entry]) = insertPath entry.1 entry.2 (nestAll entries) := by
  simp [nestAll]

/-- Of the leaves along a trail the one placed last counts. -/
theorem leafAt?_nestAll {entries : List (Trail × Value)}
    (leaves : ∀ entry ∈ entries, entry.2.isLeaf = true ∧ entry.1 ≠ []) {q : Trail} {v : Value} :
    leafAt? q (.map (nestAll entries)) = some v ↔
      ∃ earlier later, entries = earlier ++ (q, v) :: later ∧ ∀ entry ∈ later, ¬ entry.1.Meets q := by
  induction entries using List.reverseRecOn with
  | nil => simp [nestAll, leafAt?_empty]
  | append_singleton entries entry ih =>
    obtain ⟨leaf, placed⟩ := leaves entry (by simp)
    rw [nestAll_append, leafAt?_insertPath leaf placed, last_append_iff,
      ← ih fun entry member => leaves entry (by simp [member])]
    by_cases same : entry.1 = q
    · subst same
      simp [Trail.Meets, Prod.ext_iff]
    · by_cases meets : entry.1.Meets q <;> simp [same, meets, Prod.ext_iff]

/-- A tree of mappings under texts, in which no mapping holds a key twice and none inside it is
empty. -/
inductive Grown : List (Scalar × Value) → Prop
  | node {entries : List (Scalar × Value)} (texts : ∀ entry ∈ entries, ∃ s, entry.1 = .text s)
      (apart : (Entries.keys entries).Nodup)
      (full : ∀ key inner, (key, .map inner) ∈ entries → inner ≠ [])
      (grown : ∀ key inner, (key, .map inner) ∈ entries → Grown inner) : Grown entries

namespace Grown

variable {entries others : List (Scalar × Value)}

theorem empty : Grown [] := .node (by simp) List.nodup_nil (by simp) (by simp)

theorem innerAt (grown : Grown entries) (part : List Char) : Grown (innerAt entries part) := by
  unfold Flat.innerAt
  split
  · next inner found =>
    cases grown with
    | node _ _ _ grown => exact grown _ inner (Entries.mem_of_get? found)
  · exact empty

theorem insertPath_ne_nil {p : Trail} (placed : p ≠ []) {v : Value} (leaf : v.isLeaf = true)
    (entries : List (Scalar × Value)) : Flat.insertPath p v entries ≠ [] := by
  intro none
  have found := leafAt?_insertPath leaf placed p entries
  rw [none, leafAt?_empty, if_pos rfl] at found
  cases found

theorem put (grown : Grown entries) (part : List Char) {v : Value}
    (inner : ∀ inner, v = .map inner → inner ≠ [] ∧ Grown inner) :
    Grown (Entries.put entries (.text (String.ofList part)) v) := by
  cases grown with
  | node texts apart full grown =>
    refine .node (fun entry member => ?_) (Entries.nodup_put apart _ _) (fun key own member => ?_)
      fun key own member => ?_
    · rcases Entries.mem_put member with rfl | old
      · exact ⟨_, rfl⟩
      · exact texts entry old
    · rcases Entries.mem_put member with new | old
      · exact (inner own (Prod.mk.inj new).2.symm).1
      · exact full key own old
    · rcases Entries.mem_put member with new | old
      · exact (inner own (Prod.mk.inj new).2.symm).2
      · exact grown key own old

theorem insertPath {v : Value} (leaf : v.isLeaf = true) {p : Trail} (grown : Grown entries) :
    Grown (insertPath p v entries) := by
  induction p generalizing entries with
  | nil => exact grown
  | cons part rest ih =>
    by_cases more : rest = []
    · subst more
      refine grown.put part fun inner same => ?_
      subst same
      cases leaf
    · rw [insertPath_cons part more]
      refine grown.put part fun inner same => ?_
      cases same
      exact ⟨insertPath_ne_nil more leaf _, ih (grown.innerAt part)⟩

theorem nestAll {placed : List (Trail × Value)} (leaves : ∀ entry ∈ placed, entry.2.isLeaf = true) :
    Grown (nestAll placed) := by
  induction placed using List.reverseRecOn with
  | nil => exact empty
  | append_singleton front entry ih =>
    rw [nestAll_append]
    exact (ih fun entry member => leaves entry (by simp [member])).insertPath (leaves entry (by simp))

theorem leafAt?_under {s : String} {v : Value} (found : Entries.get? entries (.text s) = some v) (q : Trail) :
    leafAt? (s.toList :: q) (.map entries) = leafAt? q v := by
  simp [leafAt?, found]

/-- A tree that is not empty has a leaf. -/
theorem exists_leaf (grown : Grown entries) (some : entries ≠ []) :
    ∃ q, (leafAt? q (.map entries)).isSome = true := by
  induction grown with
  | @node entries texts _ full _ ih =>
    cases entries with
    | nil => exact absurd rfl some
    | cons entry rest =>
      obtain ⟨key, v⟩ := entry
      obtain ⟨s, rfl⟩ := texts _ (List.mem_cons_self ..)
      have here (q : Trail) : leafAt? (s.toList :: q) (.map ((.text s, v) :: rest)) = leafAt? q v :=
        leafAt?_under (by simp [Entries.get?]) q
      cases v with
      | map inner =>
        obtain ⟨q, found⟩ := ih _ inner (List.mem_cons_self ..) (full _ inner (List.mem_cons_self ..))
        exact ⟨s.toList :: q, by rw [here, found]⟩
      | _ => exact ⟨[s.toList], by rw [here]; rfl⟩

/-- A tree holds the keys under which it has leaves. -/
theorem mem_keys_iff (grown : Grown entries) {s : String} :
    Scalar.text s ∈ Entries.keys entries ↔ ∃ q, (leafAt? (s.toList :: q) (.map entries)).isSome = true := by
  rw [Entries.mem_keys_iff]
  constructor
  · rintro ⟨v, found⟩
    simp only [leafAt?_under found]
    cases grown with
    | node _ _ full grown =>
      have member := Entries.mem_of_get? found
      cases v with
      | map inner => exact (grown _ inner member).exists_leaf (full _ inner member)
      | _ => exact ⟨[], rfl⟩
  · rintro ⟨q, leaf⟩
    simp only [leafAt?, String.ofList_toList] at leaf
    cases found : Entries.get? entries (.text s) with
    | some v => exact ⟨v, rfl⟩
    | none =>
      rw [found] at leaf
      cases leaf

theorem text_of_mem_keys (grown : Grown entries) {key : Scalar} (member : key ∈ Entries.keys entries) :
    ∃ s, key = .text s := by
  obtain ⟨entry, there, rfl⟩ := List.mem_map.mp member
  cases grown with
  | node texts => exact texts entry there

theorem nodup (grown : Grown entries) : (Entries.keys entries).Nodup := by
  cases grown
  assumption

/-- Trees with the same leaves hold the same keys. -/
theorem perm_keys (grown : Grown entries) (grown' : Grown others)
    (leaves : SameLeaves (.map entries) (.map others)) : (Entries.keys entries).Perm (Entries.keys others) := by
  rw [List.perm_ext_iff_of_nodup grown.nodup grown'.nodup]
  have alike (s : String) : Scalar.text s ∈ Entries.keys entries ↔ .text s ∈ Entries.keys others := by
    simp only [grown.mem_keys_iff, grown'.mem_keys_iff, leaves.isSome_eq]
  intro key
  constructor
  · intro member
    obtain ⟨s, rfl⟩ := grown.text_of_mem_keys member
    exact (alike s).mp member
  · intro member
    obtain ⟨s, rfl⟩ := grown'.text_of_mem_keys member
    exact (alike s).mpr member

theorem find?_of_get? {s : String} {v : Value} (found : Entries.get? entries (.text s) = some v) :
    entries.find? (fun entry => (Scalar.text s).same entry.1) = some (.text s, v) := by
  induction entries with
  | nil => cases found
  | cons entry rest ih =>
    obtain ⟨key, w⟩ := entry
    by_cases here : key = .text s
    · subst here
      simp only [Entries.get?, if_true, Option.some.injEq] at found
      subst found
      exact List.find?_cons_of_pos (Scalar.same_text_iff.mpr rfl)
    · have other : (Scalar.text s).same key = false :=
        Bool.eq_false_iff.mpr fun same => here (Scalar.same_text_iff.mp same)
      rw [Entries.get?, if_neg here] at found
      simp only [List.find?_cons, other]
      exact ih found

/-- Trees with the same leaves are equal. -/
theorem same_of_leaves (grown : Grown entries) (grown' : Grown others)
    (leaves : SameLeaves (.map entries) (.map others)) : (Value.map entries).same (.map others) = true := by
  induction grown generalizing others with
  | @node entries texts apart full grown ih =>
    have keys := perm_keys (.node texts apart full grown) grown' leaves
    simp only [Value.same, Bool.and_eq_true, beq_iff_eq]
    refine ⟨by simpa [Entries.keys] using keys.length_eq, sameEntries_of_matched fun entry member => ?_⟩
    obtain ⟨key, v⟩ := entry
    obtain ⟨s, rfl⟩ := texts _ member
    obtain ⟨w, there⟩ := Entries.mem_keys_iff.mp (keys.mem_iff.mp (List.mem_map_of_mem member))
    refine ⟨_, find?_of_get? there, ?_⟩
    have below : SameLeaves v w := fun q => by
      have own := leaves (s.toList :: q)
      rwa [leafAt?_under (Entries.get?_of_mem apart member), leafAt?_under there] at own
    cases v with
    | map inner =>
      cases w with
      | map inner' =>
        cases grown' with
        | node _ _ _ grown' => exact ih _ inner member (grown' _ inner' (Entries.mem_of_get? there)) below
      | _ => exact below.same_of_leaf (.inr rfl)
    | _ => exact below.same_of_leaf (.inl rfl)

end Grown

/-- Leaves to be placed at trails that are all different. -/
structure Spread (entries : List (Trail × Value)) : Prop where
  leaves : ∀ entry ∈ entries, entry.2.isLeaf = true ∧ entry.1 ≠ []
  apart : (Entries.keys entries).Nodup

section Order

variable {xs ys : List (Trail × Value)} {r : Value → Value → Prop}

/-- A leaf that counts in one order counts in another one, if no two leaves along one trail have
changed their order. -/
theorem leafAt?_reordered (spread : Spread xs) (spread' : Spread ys)
    (alike : ∀ p, Option.Rel r (Entries.get? xs p) (Entries.get? ys p))
    (steady : ∀ p q : Trail, p.Meets q → [p, q].Sublist (Entries.keys xs) → ¬ [q, p].Sublist (Entries.keys ys))
    {q : Trail} {v : Value} (found : leafAt? q (.map (nestAll xs)) = some v) :
    ∃ w, leafAt? q (.map (nestAll ys)) = some w ∧ r v w := by
  obtain ⟨earlier, later, rfl, clear⟩ := (leafAt?_nestAll spread.leaves).mp found
  have held := alike q
  rw [Entries.get?_of_mem spread.apart (List.mem_append_right _ (List.mem_cons_self ..))] at held
  generalize there : Entries.get? ys q = held' at held
  cases held with
  | @some _ w same =>
    obtain ⟨earlier', later', rfl⟩ := List.append_of_mem (Entries.mem_of_get? there)
    have apart := spread'.apart
    refine ⟨w, (leafAt?_nestAll spread'.leaves).mpr ⟨earlier', later', rfl, fun entry member meets => ?_⟩, same⟩
    have moved := List.mem_map_of_mem (f := Prod.fst) member
    have other : entry.1 ≠ q := by
      intro same
      simp only [Entries.keys, List.map_append, List.map_cons] at apart
      exact (List.nodup_cons.mp (List.nodup_append.mp apart).2.1).1 (same ▸ moved)
    -- The other leaf has moved over this one: it stood before it, as none that meets it stood after it.
    have before : entry.1 ∈ earlier.map Prod.fst := by
      have own := alike entry.1
      rw [Entries.get?_of_mem apart (List.mem_append_right _ (List.mem_cons_of_mem _ member))] at own
      generalize here : Entries.get? (earlier ++ (q, v) :: later) entry.1 = held at own
      cases own with
      | @some u _ _ =>
        rcases List.mem_append.mp (Entries.mem_of_get? here) with first | first
        · exact List.mem_map.mpr ⟨_, first, rfl⟩
        · rcases List.mem_cons.mp first with same | last
          · exact absurd (Prod.mk.inj same).1 other
          · exact absurd meets (clear (entry.1, u) last)
    simp only [Entries.keys, List.map_append, List.map_cons] at steady
    refine steady entry.1 q meets ?_ ?_
    · exact (List.singleton_sublist.mpr before).append (List.singleton_sublist.mpr (List.mem_cons_self ..))
    · exact ((List.singleton_sublist.mpr moved).cons_cons q).trans (List.sublist_append_right ..)

/-- Leaves that are placed in another order make an equal mapping, if no two of them along one trail have
changed their order. -/
theorem nestAll_same (spread : Spread xs) (spread' : Spread ys)
    (alike : ∀ p, Option.Rel (fun v w => v.same w = true) (Entries.get? xs p) (Entries.get? ys p))
    (steady : ∀ p q : Trail, p.Meets q → [p, q].Sublist (Entries.keys xs) → ¬ [q, p].Sublist (Entries.keys ys)) :
    (Value.map (nestAll xs)).same (.map (nestAll ys)) = true := by
  have grown := Grown.nestAll fun entry member => (spread.leaves entry member).1
  refine grown.same_of_leaves (Grown.nestAll fun entry member => (spread'.leaves entry member).1) fun q => ?_
  cases found : leafAt? q (.map (nestAll xs)) with
  | some v =>
    obtain ⟨w, found', same⟩ := leafAt?_reordered spread spread' alike steady found
    rw [found']
    exact .some same
  | none =>
    cases found' : leafAt? q (.map (nestAll ys)) with
    | none => exact .none
    | some w =>
      have flipped (p : Trail) : Option.Rel (fun w v => v.same w = true) (Entries.get? ys p) (Entries.get? xs p) := by
        have own := alike p
        generalize Entries.get? xs p = x, Entries.get? ys p = y at own
        cases own with
        | some same => exact .some same
        | none => exact .none
      obtain ⟨v, back, _⟩ := leafAt?_reordered spread' spread flipped
        (fun p q meets order order' => steady q p meets.symm order' order) found'
      rw [found] at back
      cases back

end Order

end Flat

end LayeredSettings

import LayeredSettings.Proofs.Session.Moves
import LayeredSettings.Proofs.Store.Sections
import LayeredSettings.Proofs.Store.Writing

namespace LayeredSettings

/-- What stands at the end of a path through nested mappings. -/
def Value.at? : Trail → Value → Option Value
  | [], v => some v
  | part :: rest, .map entries => (Entries.get? entries (.text (String.ofList part))).bind (at? rest)
  | _ :: _, _ => none

theorem Value.at?_of_leaf {v : Value} (leaf : v.isLeaf = true) {p : Trail} (more : p ≠ []) : at? p v = none := by
  cases p with
  | nil => exact absurd rfl more
  | cons part rest =>
    cases v with
    | map => cases leaf
    | _ => rfl

theorem keys_keyed (q : Trail) (leaves : List (Trail × Value)) :
    Entries.keys (keyed q leaves) = (Entries.keys leaves).map fun p => dotted (q ++ p) := by
  simp [keyed, Entries.keys]

namespace Nested

variable {entries : List (Scalar × Value)} {s : String} {v : Value}

/-- No two leaves stand at one trail. -/
theorem nodup_entryLeaves (nested : Nested entries) : (Entries.keys (entryLeaves entries)).Nodup := by
  induction nested using induction_entries with
  | nil => exact List.nodup_nil
  | cons s v rest whole _ below others =>
    have fresh : Scalar.text s ∉ Entries.keys rest := (List.nodup_cons.mp whole.apart).1
    have inside : (Entries.keys v.leaves).Nodup := by
      rcases below with ⟨leaf, _⟩ | ⟨inner, rfl, _, _, below⟩
      · simp [Value.leaves_of_leaf leaf, Entries.keys]
      · rw [Value.leaves]
        exact below
    have first : (Entries.keys (leavesUnder s v)).Nodup := by
      have keys : Entries.keys (leavesUnder s v) = (Entries.keys v.leaves).map (s.toList :: ·) := by
        simp [leavesUnder, Entries.keys]
      rw [keys]
      exact inside.map fun _ _ same => (List.cons.inj same).2
    rw [entryLeaves_cons, Entries.keys, List.map_append]
    refine List.nodup_append.mpr ⟨first, others, fun p here q there same => ?_⟩
    obtain ⟨leaf, within, rfl⟩ := List.mem_map.mp here
    obtain ⟨under, _, rfl⟩ := List.mem_map.mp within
    obtain ⟨other, beside, rfl⟩ := List.mem_map.mp there
    obtain ⟨t, _, shape, known, _⟩ := whole.tail.of_mem_entryLeaves beside
    have alike : s = t := String.toList_inj.mp (List.cons.inj (same.trans shape)).1
    exact fresh (alike ▸ known)

/-- No two leaves stand under one key. -/
theorem nodup_keyed (nested : Nested entries) {q : Trail} (clean : q.Clean) :
    (Entries.keys (keyed q (entryLeaves entries))).Nodup := by
  rw [keys_keyed]
  refine nested.nodup_entryLeaves.map_on fun p here p' there same => ?_
  obtain ⟨leaf, member, rfl⟩ := List.mem_map.mp here
  obtain ⟨leaf', member', rfl⟩ := List.mem_map.mp there
  obtain ⟨s, rest, shape, _, front⟩ := nested.of_mem_entryLeaves member
  obtain ⟨s', rest', shape', _, back⟩ := nested.of_mem_entryLeaves member'
  have trails := (clean.append front).dotted_injective (clean.append back) (by simp [shape]) (by simp [shape']) same
  exact List.append_cancel_left trails

theorem isEmpty_keyed (nested : Nested entries) (some : entries ≠ []) :
    (keyed [] (entryLeaves entries)).isEmpty = false := by
  simpa [keyed] using nested.grown.entryLeaves_ne_nil some

theorem spelled (nested : Nested entries) : Spelled (· ≠ "") entries := by
  induction nested using induction_entries with
  | nil => exact .nil
  | cons s v rest whole clean below others =>
    have named : s ≠ "" := by
      rintro rfl
      exact (clean _ (List.mem_cons_self ..)).1 rfl
    rcases below with ⟨leaf, _, fine⟩ | ⟨inner, rfl, _, _, below⟩
    · exact .leaf named (Value.isMapping_eq_false.mpr ⟨leaf, fine⟩) others
    · exact .inner named below others

/-- Settings can be taken apart. -/
theorem entriesFault?_eq_none (nested : Nested entries) : entriesFault? entries = none :=
  nested.spelled.entriesFault?_eq_none

/-- All leaves are settings. -/
theorem settingLeaves_eq (nested : Nested entries) : settingLeaves entries = entryLeaves entries := by
  induction nested using induction_entries with
  | nil => simp [settingLeaves, entryLeaves]
  | cons s v rest whole _ below others =>
    rw [entryLeaves_cons, leavesUnder]
    rcases below with ⟨leaf, value, _⟩ | ⟨inner, rfl, _, _, below⟩
    · simp [settingLeaves_leaf leaf, others, Value.leaves_of_leaf leaf, Value.isNull_eq_false.mpr value]
    · rw [settingLeaves_map, below, others, Value.leaves]

/-- What settings are taken apart into are their leaves. -/
theorem flatten_eq (nested : Nested entries) : flatten "" entries = keyed [] (entryLeaves entries) := by
  have apart : (Entries.keys ([] ++ keyed [] (entryLeaves entries))).Nodup :=
    nested.nodup_keyed fun _ member => nomatch member
  rw [nested.spelled.flatten_eq (.inr fun _ named => named), nested.settingLeaves_eq]
  exact Entries.merge_of_apart apart

end Nested

namespace Flat

/-- Places leaves in nested mappings, one after the other. -/
def insertAll (node : List (Scalar × Value)) (leaves : List (Trail × Value)) : List (Scalar × Value) :=
  leaves.foldl (fun node leaf => insertPath leaf.1 leaf.2 node) node

theorem insertAll_append (node : List (Scalar × Value)) (front back : List (Trail × Value)) :
    insertAll node (front ++ back) = insertAll (insertAll node front) back := List.foldl_append

/-- Leaves below one component are placed in the mapping that stands under it. -/
theorem insertAll_under (part : List Char) {leaves : List (Trail × Value)} (some : leaves ≠ [])
    (more : ∀ leaf ∈ leaves, leaf.1 ≠ []) (node : List (Scalar × Value)) :
    insertAll node (leaves.map fun leaf => (part :: leaf.1, leaf.2)) =
      Entries.put node (.text (String.ofList part)) (.map (insertAll (innerAt node part) leaves)) := by
  induction leaves generalizing node with
  | nil => exact absurd rfl some
  | cons leaf rest ih =>
    have placed := insertPath_cons part (more leaf (List.mem_cons_self ..)) leaf.2 node
    have first (node : List (Scalar × Value)) (leaf : Trail × Value) (rest : List (Trail × Value)) :
        insertAll node (leaf :: rest) = insertAll (insertPath leaf.1 leaf.2 node) rest := rfl
    rw [List.map_cons, first, first, placed]
    cases rest with
    | nil => rfl
    | cons next others =>
      have onward (node : List (Scalar × Value)) := ih (by simp)
        (fun leaf member => more leaf (List.mem_cons_of_mem _ member)) node
      have inner (entries : List (Scalar × Value)) :
          innerAt (Entries.put node (.text (String.ofList part)) (.map entries)) part = entries := by
        rw [innerAt, Entries.get?_put, if_pos rfl]
      rw [onward, inner, Entries.put_put]

/-- Settings are put together again from their leaves, behind what is there. -/
theorem insertAll_entryLeaves {entries : List (Scalar × Value)} (nested : Nested entries)
    {node : List (Scalar × Value)} (apart : (Entries.keys (node ++ entries)).Nodup) :
    insertAll node (entryLeaves entries) = node ++ entries := by
  induction nested using Nested.induction_entries generalizing node with
  | nil => simp [entryLeaves, insertAll]
  | cons s v rest whole _ below later =>
    have fresh : Scalar.text s ∉ Entries.keys node := by
      intro member
      simp only [Entries.keys, List.map_append, List.map_cons] at apart
      exact (List.nodup_append.mp apart).2.2 _ member _ (List.mem_cons_self ..) rfl
    have first : insertAll node (leavesUnder s v) = node ++ [(.text s, v)] := by
      rw [← Entries.put_of_not_mem fresh]
      rcases below with ⟨leaf, _⟩ | ⟨inner, rfl, some, nested, below⟩
      · simp [leavesUnder, Value.leaves_of_leaf leaf, insertAll, insertPath]
      · have within : insertAll [] (entryLeaves inner) = [] ++ inner := below nested.apart
        have absent : innerAt node s.toList = [] := by simp [innerAt, Entries.get?_of_not_mem fresh]
        have leaves := nested.grown.entryLeaves_ne_nil some
        have further (leaf : Trail × Value) : leaf ∈ entryLeaves inner → leaf.1 ≠ [] :=
          nested.ne_nil_of_mem_entryLeaves
        rw [leavesUnder, Value.leaves, insertAll_under s.toList leaves further, absent, within,
          String.ofList_toList, List.nil_append]
    rw [entryLeaves_cons, insertAll_append, first]
    have further : (Entries.keys (node ++ [(.text s, v)] ++ rest)).Nodup := by simpa using apart
    rw [later further, List.append_assoc, List.singleton_append]

/-- Settings that have been taken apart are put together again, in their own order. -/
theorem nest_keyed {entries : List (Scalar × Value)} (nested : Nested entries) :
    (keyed [] (entryLeaves entries)).nest = .map entries := by
  have whole : insertAll [] (entryLeaves entries) = [] ++ entries := insertAll_entryLeaves nested nested.apart
  have same : ∀ (leaves : List (Trail × Value)) (node : List (Scalar × Value)),
      (∀ leaf ∈ leaves, leaf.1 ≠ [] ∧ Trail.Clean leaf.1) →
      (keyed [] leaves).foldl (fun node entry => insertPath (components entry.1.toList) entry.2 node) node =
        insertAll node leaves := by
    intro leaves
    induction leaves with
    | nil => exact fun _ _ => rfl
    | cons leaf rest ih =>
      intro node all
      obtain ⟨some, clean⟩ := all leaf (List.mem_cons_self ..)
      have later := ih (insertPath leaf.1 leaf.2 node) fun other member => all other (List.mem_cons_of_mem _ member)
      have trail : components (dotted leaf.1).toList = leaf.1 := clean.components_dotted some
      simp only [keyed, List.map_cons, List.foldl_cons, List.nil_append, trail] at later ⊢
      exact later
  rw [nest, same _ _ fun leaf member => ?_, whole, List.nil_append]
  obtain ⟨s, rest, shape, _, clean⟩ := nested.of_mem_entryLeaves member
  exact ⟨by simp [shape], clean⟩

section Sections

variable {flat : Flat} {s k : String}

/-- The key of a setting inside a section, from what remains of it there. -/
theorem below?_section (s k key : String) :
    below? (s ++ "." ++ k) key = (below? s key).bind (below? k) := by
  have parts : (s ++ "." ++ k).toList = s.toList ++ '.' :: k.toList := by simp
  ext rest
  rw [below?_eq_some_iff, Option.bind_eq_some_iff, parts]
  constructor
  · intro whole
    refine ⟨String.ofList (k.toList ++ '.' :: rest.toList), below?_eq_some_iff.mpr ?_, below?_eq_some_iff.mpr ?_⟩
    · simpa using whole
    · simp
  · rintro ⟨middle, outer, inner⟩
    rw [below?_eq_some_iff.mp outer, below?_eq_some_iff.mp inner]
    simp

theorem inSection_section (flat : Flat) (s k : String) :
    flat.inSection (s ++ "." ++ k) = (flat.inSection s).inSection k := by
  simp only [inSection, List.filterMap_filterMap]
  congr 1
  funext entry
  rw [below?_section]
  cases below? s entry.1 <;> rfl

theorem get?_section (flat : Flat) (s k : String) :
    Entries.get? flat (s ++ "." ++ k) = Entries.get? (flat.inSection s) k := by
  have named (key : String) : below? s key = some k ↔ key = s ++ "." ++ k := by
    rw [below?_eq_some_iff, ← String.toList_inj]
    simp
  induction flat with
  | nil => rfl
  | cons entry rest ih =>
    simp only [inSection] at ih
    simp only [Entries.get?, inSection, List.filterMap_cons, ih]
    by_cases here : entry.1 = s ++ "." ++ k
    · simp [here, (named (s ++ "." ++ k)).mpr rfl, Entries.get?]
    · rw [if_neg here]
      cases inside : below? s entry.1 with
      | none => rfl
      | some own =>
        have other : own ≠ k := fun same => here ((named entry.1).mp (same ▸ inside))
        simp [Entries.get?, other]

/-- A key that goes on from a section reads what its rest reads inside the section. -/
theorem lookup?_section (flat : Flat) (s : String) (some : k ≠ "") :
    flat.lookup? (s ++ "." ++ k) = (flat.inSection s).lookup? k := by
  rw [lookup?, lookup?, get?_section, inSection_section, if_neg (insideKey_ne_empty s k), if_neg some]

end Sections

end Flat

/-- The leaves inside a value that is a mapping. -/
def Value.inner : Value → List (Trail × Value)
  | .map entries => entryLeaves entries
  | _ => []

theorem Value.inner_of_leaf {v : Value} (leaf : v.isLeaf = true) : v.inner = [] := by
  cases v with
  | map => cases leaf
  | _ => rfl

section Keys

variable {s t : String} {rest : Trail}

/-- A key lies in the section of a name if its trail goes on from that name, and not if the name is only the
beginning of its first component. -/
theorem below?_dotted (named : s ≠ "") (plain : '.' ∉ s.toList) (clean : Trail.Clean (t.toList :: rest)) :
    below? s (dotted (t.toList :: rest)) = if t = s ∧ rest ≠ [] then some (dotted rest) else none := by
  have own := Trail.clean_singleton named plain
  split
  · next inside =>
    obtain ⟨rfl, more⟩ := inside
    exact below?_eq_some_iff.mpr (dotted_cons t.toList more)
  · next outside =>
    cases found : below? s (dotted (t.toList :: rest)) with
    | none => rfl
    | some k =>
      have within := isBelow_iff_components.mp (isBelow_iff.mpr ⟨k, found⟩)
      have parts : components s.toList = [s.toList] := by
        have single := own.components_dotted (by simp)
        rwa [dotted_singleton] at single
      rw [parts, clean.components_dotted (by simp), List.cons_prefix_cons, String.toList_inj] at within
      obtain ⟨⟨rfl, _⟩, other⟩ := within
      refine absurd ⟨rfl, ?_⟩ outside
      rintro rfl
      exact other (dotted_singleton s).symm

end Keys

namespace Nested

variable {entries : List (Scalar × Value)} {s : String}

/-- The settings inside the section of a name are the leaves of the mapping that stands under it. -/
theorem inSection_eq (nested : Nested entries) (named : s ≠ "") (plain : '.' ∉ s.toList) :
    (keyed [] (entryLeaves entries)).inSection s =
      keyed [] (((Entries.get? entries (.text s)).map Value.inner).getD []) := by
  induction nested using induction_entries with
  | nil => rfl
  | cons t v rest nested _ below behind =>
    have clean (leaf : Trail × Value) (member : leaf ∈ v.leaves) : Trail.Clean (t.toList :: leaf.1) := by
      have within : (t.toList :: leaf.1, leaf.2) ∈ entryLeaves ((.text t, v) :: rest) := by
        rw [entryLeaves_cons]
        exact List.mem_append_left _ (List.mem_map_of_mem member)
      obtain ⟨_, _, _, _, clean⟩ := nested.of_mem_entryLeaves within
      exact clean
    have first : (keyed [] (leavesUnder t v)).inSection s = if t = s then keyed [] v.inner else [] := by
      have reach (leaf : Trail × Value) (member : leaf ∈ v.leaves) :
          (below? s (dotted (t.toList :: leaf.1))).map (fun k => (k, leaf.2)) =
            if t = s ∧ leaf.1 ≠ [] then some (dotted leaf.1, leaf.2) else none := by
        rw [below?_dotted named plain (clean leaf member)]
        split <;> rfl
      simp only [Flat.inSection, keyed, leavesUnder, List.map_map, List.filterMap_map, Function.comp_def, List.nil_append]
      rw [List.filterMap_congr reach]
      by_cases same : t = s
      · rcases below with ⟨leaf, _⟩ | ⟨inner, rfl, _, nested, _⟩
        · simp [Value.leaves_of_leaf leaf, Value.inner_of_leaf leaf]
        · simp only [same, true_and, if_true, Value.leaves, Value.inner]
          rw [List.filterMap_congr fun leaf member => if_pos (nested.ne_nil_of_mem_entryLeaves member)]
          simp
      · simp [same]
    rw [entryLeaves_cons, keyed_append, Flat.inSection, List.filterMap_append]
    simp only [Flat.inSection] at first behind
    rw [first, behind, Entries.get?]
    by_cases same : t = s
    · subst same
      have fresh : Scalar.text t ∉ Entries.keys rest := (List.nodup_cons.mp nested.apart).1
      simp [Entries.get?_of_not_mem fresh, keyed]
    · simp [same]

/-- Under a name there is a setting if a leaf stands there. -/
theorem get?_eq (nested : Nested entries) (named : s ≠ "") (plain : '.' ∉ s.toList) :
    Entries.get? (keyed [] (entryLeaves entries)) s = (Entries.get? entries (.text s)).filter Value.isLeaf := by
  induction nested using induction_entries with
  | nil => rfl
  | cons t v rest nested _ below behind =>
    rw [entryLeaves_cons, keyed_append, Entries.get?_append, behind, Entries.get?]
    rcases below with ⟨leaf, _⟩ | ⟨inner, rfl, _, within, _⟩
    · have first : keyed [] (leavesUnder t v) = [(t, v)] := by
        simp [keyed, leavesUnder, Value.leaves_of_leaf leaf, dotted_singleton]
      rw [first, Entries.get?, Entries.get?]
      by_cases same : t = s
      · simp [same, leaf, Option.filter]
      · simp [same]
    · have first : Entries.get? (keyed [] (leavesUnder t (.map inner))) s = none := by
        refine Entries.get?_of_not_mem fun member => ?_
        rw [keys_keyed] at member
        obtain ⟨p, here, same⟩ := List.mem_map.mp member
        obtain ⟨leaf, under, rfl⟩ := List.mem_map.mp here
        have among : leaf ∈ entryLeaves ((.text t, .map inner) :: rest) := by
          rw [entryLeaves_cons]
          exact List.mem_append_left _ under
        obtain ⟨_, _, _, _, clean⟩ := nested.of_mem_entryLeaves among
        obtain ⟨below, member, rfl⟩ := List.mem_map.mp under
        rw [Value.leaves] at member
        obtain ⟨_, _, shape, _⟩ := within.of_mem_entryLeaves member
        rw [List.nil_append, ← dotted_singleton s] at same
        have trails := clean.dotted_injective (Trail.clean_singleton named plain) (by simp) (by simp) same
        simp [shape] at trails
      rw [first]
      by_cases same : t = s
      · subst same
        have fresh : Scalar.text t ∉ Entries.keys rest := (List.nodup_cons.mp nested.apart).1
        simp [Entries.get?_of_not_mem fresh, Value.isLeaf, Option.filter]
      · simp [same]

/-- A key made up of a path reads what stands at its end. -/
theorem lookup?_dotted (nested : Nested entries) {path : Trail} (some : path ≠ []) (clean : path.Clean) :
    (keyed [] (entryLeaves entries)).lookup? (dotted path) = Value.at? path (.map entries) := by
  induction path generalizing entries with
  | nil => exact absurd rfl some
  | cons part rest ih =>
    obtain ⟨s, rfl⟩ : ∃ s : String, part = s.toList := ⟨String.ofList part, by simp⟩
    obtain ⟨filled, plain⟩ := clean _ (List.mem_cons_self ..)
    have named : s ≠ "" := by
      rintro rfl
      exact filled rfl
    have settings := nested.inSection_eq named plain
    simp only [Value.at?, String.ofList_toList]
    by_cases more : rest = []
    · subst more
      rw [dotted_singleton, Flat.lookup?, nested.get?_eq named plain, if_neg named, settings]
      cases found : Entries.get? entries (.text s) with
      | none => rfl
      | some v =>
        rcases nested.inside (Entries.mem_of_get? found) with ⟨leaf, _⟩ | ⟨inner, rfl, filled, within⟩
        · simp [leaf, Value.at?, Option.filter]
        · simp [Value.isLeaf, Value.inner, Flat.nest?, within.isEmpty_keyed filled, Flat.nest_keyed within, Value.at?, Option.filter]
    · have joined : dotted (s.toList :: rest) = s ++ "." ++ dotted rest := by
        rw [← String.toList_inj, dotted_cons s.toList more]
        simp
      rw [joined, Flat.lookup?_section _ s (clean.of_cons.dotted_ne_empty more), settings]
      have nothing : (keyed [] []).lookup? (dotted rest) = none := by
        simp [keyed, Flat.lookup?, Entries.get?, Flat.inSection, Flat.nest?]
      cases found : Entries.get? entries (.text s) with
      | none => exact nothing
      | some v =>
        rcases nested.inside (Entries.mem_of_get? found) with ⟨leaf, _⟩ | ⟨inner, rfl, _, within⟩
        · rw [Option.map_some, Option.getD_some, Value.inner_of_leaf leaf, nothing, Option.bind_some, Value.at?_of_leaf leaf more]
        · exact ih within more clean.of_cons

/-- The empty key reads all settings, if there are any. -/
theorem lookup?_empty (nested : Nested entries) :
    (keyed [] (entryLeaves entries)).lookup? "" = if entries = [] then none else some (.map entries) := by
  have absent : Entries.get? (keyed [] (entryLeaves entries)) "" = none := by
    refine Entries.get?_of_not_mem fun member => ?_
    rw [keys_keyed] at member
    obtain ⟨p, here, same⟩ := List.mem_map.mp member
    obtain ⟨leaf, under, rfl⟩ := List.mem_map.mp here
    obtain ⟨_, _, shape, _, clean⟩ := nested.of_mem_entryLeaves under
    exact clean.dotted_ne_empty (by simp [shape]) same
  rw [Flat.lookup?, absent]
  simp only [if_true, Flat.nest?, Flat.nest_keyed nested]
  by_cases empty : entries = []
  · simp [empty, entryLeaves, keyed]
  · simp [empty, nested.isEmpty_keyed empty]

end Nested

/-- Layers that stand alone are in force as they are. -/
theorem Layers.effective_alone {layers : Layers} {layer : Layer} (tidy : layers.Tidy)
    (alone : ∀ other, other ≠ layer → layers.get other = []) : layers.effective = layers.get layer := by
  have onto (flat : Flat) : flat.merge [] = flat := rfl
  have fill : Entries.merge [] (layers.get layer) = [] ++ layers.get layer := Entries.merge_of_apart (tidy layer)
  rw [List.nil_append] at fill
  cases layer <;>
    simp only [effective, Layer.all, List.foldl_cons, List.foldl_nil, alone .machine, alone .user, alone .project,
      alone .memory, ne_eq, reduceCtorEq, not_false_eq_true, onto, fill]

namespace World

/-- A program that reads one key gets the setting, and changes nothing. -/
theorem run_get (w : World) (key : String) (default : Value) :
    w.run (.get key default) = (w, .ok ((w.settings.lookup? key).getD default)) := by
  have read : Machine.step? ⟨w, .answered .null, [.actions [.get key default]]⟩ =
      some ⟨w, .answered ((w.settings.lookup? key).getD default), [.actions []]⟩ := rfl
  have ended : Machine.step? ⟨w, .answered ((w.settings.lookup? key).getD default), [.actions []]⟩ =
      some ⟨w, .answered ((w.settings.lookup? key).getD default), []⟩ := rfl
  rw [run, Machine.run_of_step read, Machine.run_of_step ended, Machine.run_of_done rfl]

/-- A setting in force is read under its key. -/
theorem run_get_of_get? {w : World} {key : String} {v : Value} (found : Entries.get? w.settings key = some v)
    (default : Value) : w.run (.get key default) = (w, .ok v) := by
  rw [run_get, Flat.lookup?, found, Option.getD_some]

/-- A mapping that is loaded as the only layer with settings is read by path as it stands: the value at the end of a
path, with the order of its keys, or what the caller falls back to where the path leaves the mapping. -/
theorem get_navigates {w v : World} {layer : Layer} {m : List (Scalar × Value)} (nested : Nested m)
    (alone : ∀ other, other ≠ layer → w.layers.get other = [])
    (loaded : (w.perform (.setLayers [(layer.name, m)])).world = v) (default : Value) :
    v = w.enforce (w.layers.set layer (flatten "" m)) ∧
      (∀ path, path ≠ [] → Trail.Clean path →
        v.run (.get (dotted path) default) = (v, .ok ((Value.at? path (.map m)).getD default))) ∧
      v.run (.get "" default) = (v, .ok (if m = [] then default else .map m)) := by
  have named : namedLayers [(layer.name, m)] = .ok [(layer, m)] := by
    cases layer <;> rfl
  have enforced : v = w.enforce (w.layers.set layer (flatten "" m)) := by
    rw [← loaded]
    simp only [perform, named, replaceLayers, List.findSome?_cons, nested.entriesFault?_eq_none, List.findSome?_nil,
      Layers.replace]
    rcases w.change_cases (w.layers.set layer (flatten "" m)) with ⟨_, same⟩ | ⟨_, same⟩ <;> rw [same]
  have settings : v.settings = keyed [] (entryLeaves m) := by
    have others (other : Layer) (apart : other ≠ layer) : (w.layers.set layer (flatten "" m)).get other = [] := by
      rw [Layers.get_set, if_neg apart.symm, alone other apart]
    have tidy : (w.layers.set layer (flatten "" m)).Tidy := by
      intro other
      rw [Layers.get_set]
      split
      · exact nodup_flattenOnto "" m List.nodup_nil
      · next apart =>
        rw [alone other (Ne.symm apart)]
        exact List.nodup_nil
    rw [enforced, enforce, Layers.effective_alone tidy others, Layers.get_set, if_pos rfl, nested.flatten_eq]
  refine ⟨enforced, fun path some clean => ?_, ?_⟩
  · rw [run_get, settings, nested.lookup?_dotted some clean]
  · rw [run_get, settings, nested.lookup?_empty]
    split <;> rfl

/-- A mapping with a key that another one begins with, at two levels. -/
def lookalikes : List (Scalar × Value) :=
  [(.text "ab", .map [(.text "c", .list [.null])]),
    (.text "a", .map [(.text "bc", .text "x"), (.text "b", .scalar (.int 1))])]

theorem nested_lookalikes : Nested lookalikes := by
  have long : Nested [(.text "c", .list [.null])] :=
    .node (by simp) (by decide) (by simp) (by simp) (by simp)
  have short : Nested [(.text "bc", .text "x"), (.text "b", .scalar (.int 1))] :=
    .node (by simp) (by decide) (by simp [Value.null]) (by simp) (by simp)
  have within (key : Scalar) (inner : List (Scalar × Value)) (member : (key, .map inner) ∈ lookalikes) :
      inner ≠ [] ∧ Nested inner := by
    simp only [lookalikes, List.mem_cons, Prod.mk.injEq, Value.map.injEq, List.not_mem_nil, or_false] at member
    rcases member with ⟨_, rfl⟩ | ⟨_, rfl⟩
    · exact ⟨by simp, long⟩
    · exact ⟨by simp, short⟩
  exact .node (by simp [lookalikes]) (by decide) (by simp [lookalikes, Value.null])
    (fun key inner member => (within key inner member).1) fun key inner member => (within key inner member).2

/-- A whole mapping inside is read with its own order, and a path that goes on from a leaf leads nowhere. -/
theorem get_navigates_lookalikes : Nested lookalikes ∧ (∀ other, other ≠ Layer.user → Layers.empty.get other = []) ∧
    ∃ v : World, (World.perform {} (.setLayers [(Layer.user.name, lookalikes)])).world = v ∧
      v.run (.get "a" .null) = (v, .ok (.map [(.text "bc", .text "x"), (.text "b", .scalar (.int 1))])) ∧
      v.run (.get "a.b.c" (.text "none")) = (v, .ok (.text "none")) ∧
      v.run (.get "" .null) = (v, .ok (.map lookalikes)) := by
  have alone (other : Layer) (_ : other ≠ Layer.user) : Layers.empty.get other = [] := by
    cases other <;> rfl
  refine ⟨nested_lookalikes, alone, _, rfl, ?_, ?_, ?_⟩
  · exact (get_navigates nested_lookalikes alone rfl .null).2.1 [['a']] (by simp) (by simp [Trail.Clean])
  · exact (get_navigates nested_lookalikes alone rfl (.text "none")).2.1 [['a'], ['b'], ['c']] (by simp)
      (by simp [Trail.Clean])
  · exact (get_navigates nested_lookalikes alone rfl .null).2.2

end World

end LayeredSettings

import LayeredSettings.Proofs.Store.Nesting
import LayeredSettings.Proofs.Text.Components

namespace LayeredSettings

namespace Entries

variable {κ ν : Type} [DecidableEq κ] {entries others : Entries κ ν} {key : κ}

theorem put_of_not_mem (absent : key ∉ entries.keys) (value : ν) : entries.put key value = entries ++ [(key, value)] := by
  induction entries with
  | nil => rfl
  | cons entry rest ih =>
    simp only [keys, List.map_cons, List.mem_cons, not_or] at absent
    have other : entry.1 ≠ key := fun same => absent.1 same.symm
    have later := ih absent.2
    simp only [put] at later
    simp only [put, putBy, decide_eq_true_eq, if_neg other, later, List.cons_append]

theorem put_put (entries : Entries κ ν) (key : κ) (first second : ν) :
    (entries.put key first).put key second = entries.put key second := by
  induction entries with
  | nil => simp [put, putBy]
  | cons entry rest ih =>
    simp only [put] at ih
    by_cases here : entry.1 = key
    · simp [put, putBy, here]
    · simp [put, putBy, here, ih]

theorem get?_append (entries others : Entries κ ν) (key : κ) :
    get? (entries ++ others) key = (get? entries key).or (get? others key) := by
  induction entries with
  | nil => rfl
  | cons entry rest ih =>
    by_cases here : entry.1 = key
    · simp [get?, here]
    · simp only [List.cons_append, get?, if_neg here, ih]

theorem get?_of_not_mem (absent : key ∉ entries.keys) : get? entries key = none := by
  cases found : get? entries key with
  | none => rfl
  | some value => exact absurd (mem_keys_iff.mpr ⟨value, found⟩) absent

/-- Entries under new keys are written behind those that are there. -/
theorem merge_of_apart (apart : (entries ++ others).keys.Nodup) : entries.merge others = entries ++ others := by
  induction others generalizing entries with
  | nil => simp [merge]
  | cons entry rest ih =>
    have absent : entry.1 ∉ entries.keys := by
      intro member
      simp only [keys, List.map_append, List.map_cons] at apart
      exact (List.nodup_append.mp apart).2.2 _ member _ (List.mem_cons_self ..) rfl
    have written : entries.put entry.1 entry.2 = entries ++ [entry] := put_of_not_mem absent entry.2
    rw [merge_cons, written, ih (by simpa using apart), List.append_assoc, List.singleton_append]

end Entries

/-- The key that the components of a trail make up. -/
def dotted (p : Trail) : String := String.ofList (joinWith '.' p)

/-- The components of a trail can be told from each other in the key that they make up. -/
def Trail.Clean (p : Trail) : Prop := ∀ part ∈ p, part ≠ [] ∧ '.' ∉ part

/-- A name without a dot is the key of a trail of its own. -/
theorem dotted_singleton (s : String) : dotted [s.toList] = s := by
  simp [dotted, joinWith]

theorem Trail.clean_singleton {s : String} (named : s ≠ "") (plain : '.' ∉ s.toList) : Trail.Clean [s.toList] := by
  intro part here
  rw [List.mem_singleton.mp here]
  exact ⟨fun blank => named (String.toList_inj.mp blank), plain⟩

namespace Trail.Clean

variable {p q : Trail} {part : List Char}

theorem of_cons (clean : Clean (part :: p)) : p.Clean := fun other member => clean other (List.mem_cons_of_mem _ member)

theorem append (clean : p.Clean) (clean' : q.Clean) : (p ++ q : Trail).Clean := by
  intro part member
  rcases List.mem_append.mp member with front | back
  · exact clean part front
  · exact clean' part back

theorem components_dotted (clean : p.Clean) (some : p ≠ []) : components (dotted p).toList = p := by
  rw [dotted, String.toList_ofList]
  exact splitAt_joinWith some fun part member => (clean part member).2

theorem dotted_injective (clean : p.Clean) (clean' : q.Clean) (some : p ≠ []) (some' : q ≠ [])
    (same : dotted p = dotted q) : p = q := by
  rw [← clean.components_dotted some, ← clean'.components_dotted some', same]

/-- Only the empty trail makes up the empty key. -/
theorem dotted_ne_empty (clean : p.Clean) (some : p ≠ []) : dotted p ≠ "" := by
  intro empty
  have parts := clean.components_dotted some
  rw [empty] at parts
  have blank : ([] : List Char) ∈ p := parts ▸ List.mem_cons_self ..
  exact (clean [] blank).1 rfl

end Trail.Clean

theorem dotted_cons (part : List Char) {p : Trail} (more : p ≠ []) :
    (dotted (part :: p)).toList = part ++ '.' :: (dotted p).toList := by
  have joined : joinWith '.' ([part] ++ p) = joinWith '.' [part] ++ '.' :: joinWith '.' p :=
    joinWith_append '.' (by simp) more
  rw [dotted, dotted, String.toList_ofList, String.toList_ofList]
  exact joined

mutual

/-- The leaves of a value under the trails that lead to them, in the order they stand in. -/
def Value.leaves : Value → List (Trail × Value)
  | .map entries => entryLeaves entries
  | v => [([], v)]

def entryLeaves : List (Scalar × Value) → List (Trail × Value)
  | [] => []
  | (key, v) :: rest => v.leaves.map (fun leaf => (key.keyText.toList :: leaf.1, leaf.2)) ++ entryLeaves rest

end

theorem Value.leaf_or_map (v : Value) : v.isLeaf = true ∨ ∃ inner, v = .map inner := by
  cases v with
  | map inner => exact .inr ⟨inner, rfl⟩
  | _ => exact .inl rfl

theorem Value.leaves_of_leaf {v : Value} (leaf : v.isLeaf = true) : v.leaves = [([], v)] := by
  cases v with
  | map => cases leaf
  | _ => rw [Value.leaves]; simp

/-- The leaves of the entry of a mapping. -/
def leavesUnder (s : String) (v : Value) : List (Trail × Value) := v.leaves.map fun leaf => (s.toList :: leaf.1, leaf.2)

theorem entryLeaves_cons (s : String) (v : Value) (rest : List (Scalar × Value)) :
    entryLeaves ((.text s, v) :: rest) = leavesUnder s v ++ entryLeaves rest := by
  rw [entryLeaves, leavesUnder, Scalar.keyText]

/-- Leaves under the keys of their trails inside a section. -/
def keyed (q : Trail) (leaves : List (Trail × Value)) : Flat := leaves.map fun leaf => (dotted (q ++ leaf.1), leaf.2)

theorem keyed_append (q : Trail) (leaves others : List (Trail × Value)) :
    keyed q (leaves ++ others) = keyed q leaves ++ keyed q others := List.map_append

/-- A tree that is not empty has leaves. -/
theorem Flat.Grown.entryLeaves_ne_nil {entries : List (Scalar × Value)} (grown : Flat.Grown entries)
    (some : entries ≠ []) : entryLeaves entries ≠ [] := by
  induction grown with
  | @node entries texts _ full _ ih =>
    cases entries with
    | nil => exact absurd rfl some
    | cons entry rest =>
      obtain ⟨key, v⟩ := entry
      have first : v.leaves ≠ [] := by
        rcases v.leaf_or_map with leaf | ⟨inner, rfl⟩
        · simp [Value.leaves_of_leaf leaf]
        · rw [Value.leaves]
          exact ih key inner (List.mem_cons_self ..) (full key inner (List.mem_cons_self ..))
      rw [entryLeaves]
      intro none
      exact first (List.map_eq_nil_iff.mp (List.append_eq_nil_iff.mp none).1)

/-- Settings as a document holds them: the keys are texts that are neither empty nor dotted, and none stands
twice in a mapping; what is no mapping is a value that is not null, and a mapping inside is not empty and does not
lie in itself. -/
inductive Nested : List (Scalar × Value) → Prop
  | node {entries : List (Scalar × Value)}
      (named : ∀ entry ∈ entries, ∃ s, entry.1 = .text s ∧ s ≠ "" ∧ '.' ∉ s.toList)
      (apart : (Entries.keys entries).Nodup)
      (valued : ∀ entry ∈ entries, entry.2 ≠ .null ∧ ∀ e, entry.2 = .enclosing e → e.mapping = false)
      (full : ∀ key inner, (key, .map inner) ∈ entries → inner ≠ [])
      (nested : ∀ key inner, (key, .map inner) ∈ entries → Nested inner) : Nested entries

namespace Nested

variable {entries : List (Scalar × Value)} {key : Scalar} {v : Value} {s : String}

theorem tail {entry : Scalar × Value} {rest : List (Scalar × Value)} (nested : Nested (entry :: rest)) : Nested rest := by
  cases nested with
  | node named apart valued full nested =>
    exact .node (fun other member => named other (List.mem_cons_of_mem _ member)) (List.nodup_cons.mp apart).2
      (fun other member => valued other (List.mem_cons_of_mem _ member))
      (fun key inner member => full key inner (List.mem_cons_of_mem _ member))
      (fun key inner member => nested key inner (List.mem_cons_of_mem _ member))

theorem named (nested : Nested entries) {entry : Scalar × Value} (member : entry ∈ entries) :
    ∃ s, entry.1 = .text s ∧ s ≠ "" ∧ '.' ∉ s.toList := by
  cases nested with
  | node named => exact named entry member

theorem apart (nested : Nested entries) : (Entries.keys entries).Nodup := by
  cases nested
  assumption

/-- What stands under a key is a leaf with a value, or settings again. -/
theorem inside (nested : Nested entries) (member : (key, v) ∈ entries) :
    (v.isLeaf = true ∧ v ≠ .null ∧ entryFault? v = none) ∨ ∃ inner, v = .map inner ∧ inner ≠ [] ∧ Nested inner := by
  cases nested with
  | node _ _ valued full nested =>
    obtain ⟨value, ends⟩ := valued _ member
    cases v with
    | map inner => exact .inr ⟨inner, rfl, full key inner member, nested key inner member⟩
    | enclosing e => exact .inl ⟨rfl, value, by simp [entryFault?, ends e rfl]⟩
    | scalar | list | tuple | set => exact .inl ⟨rfl, value, rfl⟩

theorem grown (nested : Nested entries) : Flat.Grown entries := by
  induction nested with
  | node named apart _ full _ ih =>
    refine .node (fun entry member => ?_) apart full ih
    obtain ⟨s, own, _⟩ := named entry member
    exact ⟨s, own⟩

/-- Settings are built up by entries put in front of others, with a leaf or with settings again under
their names. -/
theorem induction_entries {motive : ∀ entries, Nested entries → Prop} (nil : ∀ nested, motive [] nested)
    (cons : ∀ s v rest (whole : Nested ((.text s, v) :: rest)), Trail.Clean [s.toList] →
      ((v.isLeaf = true ∧ v ≠ .null ∧ entryFault? v = none) ∨
        ∃ inner, v = .map inner ∧ inner ≠ [] ∧ ∃ nested, motive inner nested) →
      motive rest whole.tail → motive ((.text s, v) :: rest) whole) (nested : Nested entries) :
    motive entries nested := by
  induction nested with
  | @node entries named apart valued full nested ih =>
    have whole : Nested entries := .node named apart valued full nested
    suffices built : ∀ whole : Nested entries, motive entries whole from built whole
    have below (key : Scalar) (inner : List (Scalar × Value)) (member : (key, .map inner) ∈ entries) :
        ∃ nested, motive inner nested := ⟨_, ih key inner member⟩
    clear ih named apart valued full nested whole
    induction entries with
    | nil => exact nil
    | cons entry rest later =>
      intro whole
      obtain ⟨key, v⟩ := entry
      obtain ⟨s, own, some, plain⟩ := whole.named (List.mem_cons_self ..)
      simp only at own
      subst own
      have others := later (fun key inner member => below key inner (List.mem_cons_of_mem _ member)) whole.tail
      refine cons s v rest whole (Trail.clean_singleton some plain) ?_ others
      refine (whole.inside (List.mem_cons_self ..)).imp_right ?_
      rintro ⟨inner, rfl, some, _⟩
      exact ⟨inner, rfl, some, below (.text s) inner (List.mem_cons_self ..)⟩

/-- A leaf stands at the end of a trail that is clean, and its first component is a key. -/
theorem of_mem_entryLeaves (nested : Nested entries) {leaf : Trail × Value} (member : leaf ∈ entryLeaves entries) :
    ∃ s rest, leaf.1 = s.toList :: rest ∧ .text s ∈ Entries.keys entries ∧ Trail.Clean leaf.1 := by
  induction nested using induction_entries generalizing leaf with
  | nil => simp [entryLeaves] at member
  | cons s v rest whole clean below others =>
    rw [entryLeaves_cons] at member
    rcases List.mem_append.mp member with here | there
    · obtain ⟨leaf, within, rfl⟩ := List.mem_map.mp here
      refine ⟨s, leaf.1, rfl, List.mem_cons_self .., ?_⟩
      rcases below with ⟨ends, _⟩ | ⟨inner, rfl, _, _, below⟩
      · rw [Value.leaves_of_leaf ends, List.mem_singleton] at within
        rw [within]
        exact clean
      · rw [Value.leaves] at within
        obtain ⟨_, _, _, _, clean'⟩ := below within
        exact clean.append clean'
    · obtain ⟨t, under, shape, known, clean⟩ := others there
      exact ⟨t, under, shape, List.mem_cons_of_mem _ known, clean⟩

theorem ne_nil_of_mem_entryLeaves (nested : Nested entries) {leaf : Trail × Value} (member : leaf ∈ entryLeaves entries) :
    leaf.1 ≠ [] := by
  obtain ⟨_, _, shape, _⟩ := nested.of_mem_entryLeaves member
  simp [shape]

end Nested

end LayeredSettings

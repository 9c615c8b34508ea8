import LayeredSettings.Proofs.Store.Flattening
import LayeredSettings.Proofs.Store.Leaves

namespace LayeredSettings

namespace Entries

variable {κ ν : Type} [DecidableEq κ] {entries others : Entries κ ν} {key other : κ}

theorem merge_append (entries others more : Entries κ ν) :
    entries.merge (others ++ more) = (entries.merge others).merge more := List.foldl_append

theorem mem_keys_put (entries : Entries κ ν) (key : κ) (value : ν) : key ∈ keys (entries.put key value) :=
  mem_keys_iff.mpr ⟨value, by rw [get?_put, if_pos rfl]⟩

theorem mem_keys_put_of_mem (here : key ∈ keys entries) (value : ν) : key ∈ keys (entries.put other value) := by
  obtain ⟨old, found⟩ := mem_keys_iff.mp here
  rw [mem_keys_iff]
  simp only [get?_put, found]
  split
  · exact ⟨value, rfl⟩
  · exact ⟨old, rfl⟩

/-- An entry that is there already is written in place, whatever is written beside it. -/
theorem put_put_comm (here : key ∈ keys entries) (apart : other ≠ key) (value own : ν) :
    (entries.put other own).put key value = (entries.put key value).put other own := by
  induction entries with
  | nil => cases here
  | cons entry rest ih =>
    simp only [put] at ih
    by_cases first : entry.1 = key
    · have beside : entry.1 ≠ other := fun same => apart (same.symm.trans first)
      simp [put, putBy, first, apart.symm]
    · have later : key ∈ keys rest := (List.mem_cons.mp here).resolve_left fun same => first same.symm
      by_cases second : entry.1 = other
      · simp [put, putBy, second, apart]
      · simp [put, putBy, first, second, ih later]

theorem merge_put_of_mem (here : key ∈ keys entries) (absent : key ∉ keys others) (value : ν) :
    (entries.merge others).put key value = (entries.put key value).merge others := by
  induction others generalizing entries with
  | nil => rfl
  | cons entry rest ih =>
    simp only [keys, List.map_cons, List.mem_cons, not_or] at absent
    have onward := ih (mem_keys_put_of_mem here entry.2 : key ∈ keys (entries.put entry.1 entry.2)) absent.2
    have beside : entry.1 ≠ key := fun same => absent.1 same.symm
    rw [put_put_comm here beside] at onward
    exact onward

/-- Entries are merged with one more written into them as they are merged and it is written then. -/
theorem merge_put (entries : Entries κ ν) (apart : others.keys.Nodup) (key : κ) (value : ν) :
    entries.merge (others.put key value) = (entries.merge others).put key value := by
  induction others generalizing entries with
  | nil => rfl
  | cons entry rest ih =>
    obtain ⟨new, apart⟩ := List.nodup_cons.mp apart
    by_cases first : entry.1 = key
    · subst first
      have inPlace : put (entry :: rest) entry.1 value = (entry.1, value) :: rest := by simp [put, putBy]
      rw [inPlace, merge_cons, merge_cons, merge_put_of_mem (mem_keys_put ..) new, put_put]
    · have behind : put (entry :: rest) key value = entry :: put rest key value := by simp [put, putBy, first]
      rw [behind, merge_cons, merge_cons, ih _ apart]

/-- Entries that were merged into others first make no difference. -/
theorem merge_merge (entries : Entries κ ν) (apart : others.keys.Nodup) (more : Entries κ ν) :
    entries.merge (others.merge more) = (entries.merge others).merge more := by
  induction more generalizing others with
  | nil => rfl
  | cons entry rest ih =>
    rw [merge_cons, merge_cons, ih (nodup_put apart entry.1 entry.2), merge_put entries apart]

end Entries

section Flattening

variable {outer : String} {flat : Flat}

theorem flattenOnto_append (outer : String) (flat : Flat) (front rest : List (Scalar × Value)) :
    flattenOnto outer flat (front ++ rest) = flattenOnto outer (flattenOnto outer flat front) rest := by
  induction front generalizing flat with
  | nil => simp only [List.nil_append, flattenOnto]
  | cons entry front ih => simp only [List.cons_append, flattenOnto, ih]

/-- Settings that are taken apart for themselves and then merged are those that are written one by one. -/
theorem merge_flattenOnto (outer : String) (flat : Flat) (entries : List (Scalar × Value)) {others : Flat}
    (apart : (Entries.keys others).Nodup) :
    flat.merge (flattenOnto outer others entries) = flattenOnto outer (flat.merge others) entries := by
  induction entries generalizing others with
  | nil => simp only [flattenOnto]
  | cons entry rest ih =>
    simp only [flattenOnto]
    rw [ih (Entries.nodup_merge apart _), Entries.merge_merge flat apart]

theorem flattenOnto_map (outer : String) (flat : Flat) (key : Scalar) (inner rest : List (Scalar × Value)) :
    flattenOnto outer flat ((key, .map inner) :: rest) =
      flattenOnto outer (flattenOnto (joinKey outer key) flat inner) rest := by
  have straight : flat.merge (flattenOnto (joinKey outer key) [] inner) = flattenOnto (joinKey outer key) flat inner :=
    merge_flattenOnto _ flat inner List.nodup_nil
  simp only [flattenOnto, flattenEntry, straight]

theorem flattenOnto_null (outer : String) (flat : Flat) (key : Scalar) (rest : List (Scalar × Value)) :
    flattenOnto outer flat ((key, .null) :: rest) = flattenOnto outer flat rest := by
  simp [flattenOnto, flattenEntry, Entries.merge]

theorem flattenEntry_of_leaf {v : Value} (leaf : v.isLeaf = true) (key : String) :
    flattenEntry key v = if v.isNull then [] else [(key, v)] := by
  cases v with
  | map => cases leaf
  | scalar s => cases s <;> simp [flattenEntry, Value.isNull]
  | list | tuple | set | enclosing => simp [flattenEntry, Value.isNull]

end Flattening

theorem Value.isNull_eq_false {v : Value} : v.isNull = false ↔ v ≠ .null := by
  unfold isNull
  split
  · simp
  · next other => exact ⟨fun _ => other, fun _ => rfl⟩

/-- Whether a value is a mapping, one that lies in itself included. -/
def Value.isMapping : Value → Bool
  | .map _ => true
  | .enclosing e => e.mapping
  | _ => false

theorem Value.isMapping_eq_false {v : Value} :
    v.isMapping = false ↔ v.isLeaf = true ∧ entryFault? v = none := by
  cases v <;> simp [isMapping, isLeaf, entryFault?]

/-- Settings whose keys are texts with a property, at every level, and in which no mapping lies in
itself. -/
inductive Spelled (P : String → Prop) : List (Scalar × Value) → Prop
  | nil : Spelled P []
  | leaf {s : String} {v : Value} {rest : List (Scalar × Value)} :
      P s → v.isMapping = false → Spelled P rest → Spelled P ((.text s, v) :: rest)
  | inner {s : String} {inner rest : List (Scalar × Value)} :
      P s → Spelled P inner → Spelled P rest → Spelled P ((.text s, .map inner) :: rest)

/-- The leaves that are settings, in the order of the document: a null is none. -/
def settingLeaves (entries : List (Scalar × Value)) : List (Trail × Value) :=
  (entryLeaves entries).filter fun leaf => !leaf.2.isNull

section Leaves

variable {s : String} {v : Value} {inner rest : List (Scalar × Value)}

theorem settingLeaves_leaf (ends : v.isLeaf = true) : settingLeaves ((.text s, v) :: rest) =
    (if v.isNull then [] else [([s.toList], v)]) ++ settingLeaves rest := by
  rw [settingLeaves, entryLeaves_cons, leavesUnder, Value.leaves_of_leaf ends]
  cases null : v.isNull <;> simp [settingLeaves, null]

theorem settingLeaves_map : settingLeaves ((.text s, .map inner) :: rest) =
    (settingLeaves inner).map (fun leaf => (s.toList :: leaf.1, leaf.2)) ++ settingLeaves rest := by
  rw [settingLeaves, entryLeaves_cons, List.filter_append, leavesUnder, Value.leaves, List.filter_map]
  simp [settingLeaves, Function.comp_def]

end Leaves

/-- The trail that leads to where settings stand under a key, which may be the empty one. -/
def root (outer : String) : Trail := if outer = "" then [] else [outer.toList]

theorem dotted_root (outer : String) : dotted (root outer) = outer := by
  unfold root
  split
  · next blank => rw [blank]; rfl
  · exact dotted_singleton outer

/-- What stands behind a trail has the key of the trail in front of its own, unless that is empty. -/
theorem dotted_concat {q : Trail} {s : String} (fit : dotted q ≠ "" ∨ q = [] ∧ s ≠ "") :
    joinKey (dotted q) (.text s) = dotted (q ++ [s.toList]) ∧ dotted (q ++ [s.toList]) ≠ "" := by
  rcases fit with named | ⟨rfl, named⟩
  · have some : q ≠ [] := by
      rintro rfl
      exact named rfl
    have joined : joinWith '.' (q ++ [s.toList]) = joinWith '.' q ++ '.' :: joinWith '.' [s.toList] :=
      joinWith_append '.' some (by simp)
    refine ⟨?_, fun blank => ?_⟩
    · rw [joinKey, if_neg named, ← String.toList_inj, dotted, dotted, joined]
      simp [joinWith, Scalar.keyText]
    · have none := congrArg String.toList blank
      rw [dotted, String.toList_ofList, joined] at none
      simp at none
  · simp [dotted, joinWith, joinKey, Scalar.keyText, named]

namespace Spelled

variable {P : String → Prop} {entries front rest : List (Scalar × Value)}

theorem entriesFault?_eq_none (spelled : Spelled P entries) : entriesFault? entries = none := by
  induction spelled with
  | nil => rfl
  | leaf _ leaf _ later => simp [entriesFault?, Scalar.isLong, (Value.isMapping_eq_false.mp leaf).2, later]
  | inner _ _ _ below later => simp [entriesFault?, entryFault?, Scalar.isLong, below, later]

theorem append_iff : Spelled P (front ++ rest) ↔ Spelled P front ∧ Spelled P rest := by
  induction front with
  | nil => exact ⟨fun spelled => ⟨.nil, spelled⟩, And.right⟩
  | cons entry front ih =>
    constructor
    · intro spelled
      cases spelled with
      | leaf named leaf others => exact ⟨.leaf named leaf (ih.mp others).1, (ih.mp others).2⟩
      | inner named within others => exact ⟨.inner named within (ih.mp others).1, (ih.mp others).2⟩
    · rintro ⟨spelled, behind⟩
      cases spelled with
      | leaf named leaf others => exact .leaf named leaf (ih.mpr ⟨others, behind⟩)
      | inner named within others => exact .inner named within (ih.mpr ⟨others, behind⟩)

/-- Taking settings apart writes their leaves one by one under the keys of their trails. -/
theorem flattenOnto_eq (spelled : Spelled P entries) {q : Trail} (fit : dotted q ≠ "" ∨ q = [] ∧ ∀ s, P s → s ≠ "")
    (flat : Flat) : flattenOnto (dotted q) flat entries = flat.merge (keyed q (settingLeaves entries)) := by
  have reach {q : Trail} {s : String} (fit : dotted q ≠ "" ∨ q = [] ∧ ∀ s, P s → s ≠ "") (named : P s) :=
    dotted_concat (fit.imp_right fun ⟨top, filled⟩ => ⟨top, filled s named⟩)
  induction spelled generalizing q flat with
  | nil => simp [flattenOnto, settingLeaves, entryLeaves, keyed, Entries.merge]
  | @leaf s v rest named leaf _ later =>
    have ends := (Value.isMapping_eq_false.mp leaf).1
    rw [flattenOnto, flattenEntry_of_leaf ends, later fit, (reach fit named).1, settingLeaves_leaf ends,
      keyed_append, Entries.merge_append]
    split <;> simp [keyed]
  | @inner s within rest named _ _ below later =>
    have parts : keyed q (settingLeaves ((.text s, .map within) :: rest)) =
        keyed (q ++ [s.toList]) (settingLeaves within) ++ keyed q (settingLeaves rest) := by
      rw [settingLeaves_map, keyed_append]
      simp [keyed]
    rw [flattenOnto_map, (reach fit named).1, below (.inl (reach fit named).2), later fit, parts,
      Entries.merge_append]

theorem flatten_eq (spelled : Spelled P entries) {outer : String} (fit : outer ≠ "" ∨ ∀ s, P s → s ≠ "") :
    flatten outer entries = Entries.merge [] (keyed (root outer) (settingLeaves entries)) := by
  have fits : dotted (root outer) ≠ "" ∨ root outer = [] ∧ ∀ s, P s → s ≠ "" := by
    rw [dotted_root]
    by_cases blank : outer = ""
    · exact .inr ⟨by simp [root, blank], fit.resolve_left (absurd blank)⟩
    · exact .inl blank
  have all := spelled.flattenOnto_eq fits []
  rwa [dotted_root] at all

end Spelled

/-- The same settings written in another way: the entries of a mapping, at any depth, stand in its place under
dotted keys, or a null is left out. Whether the dotted keys stand in the outer mapping already is left open. -/
inductive Respelled : List (Scalar × Value) → List (Scalar × Value) → Prop
  | dots (front : List (Scalar × Value)) (s : String) (inner rest : List (Scalar × Value)) :
      Respelled (front ++ (.text s, .map inner) :: rest)
        (front ++ inner.map (fun entry => (.text (s ++ "." ++ entry.1.keyText), entry.2)) ++ rest)
  | drop (front : List (Scalar × Value)) (key : Scalar) (rest : List (Scalar × Value)) :
      Respelled (front ++ (key, .null) :: rest) (front ++ rest)
  | within (front : List (Scalar × Value)) (key : Scalar) {inner inner' : List (Scalar × Value)}
      (rest : List (Scalar × Value)) : Respelled inner inner' →
      Respelled (front ++ (key, .map inner) :: rest) (front ++ (key, .map inner') :: rest)

namespace Respelled

variable {entries entries' : List (Scalar × Value)}

/-- A key goes on from a dotted one as from its parts. -/
theorem joinKey_dots {s : String} (named : s ≠ "") (outer : String) (key : Scalar) :
    joinKey outer (.text (s ++ "." ++ key.keyText)) = joinKey (joinKey outer (.text s)) key := by
  by_cases blank : outer = ""
  · simp [joinKey, Scalar.keyText, blank, named]
  · simp [joinKey, Scalar.keyText, blank, String.append_assoc]

theorem flattenOnto_dots {s : String} (named : s ≠ "") (outer : String) (flat : Flat) (inner : List (Scalar × Value)) :
    flattenOnto outer flat (inner.map fun entry => (.text (s ++ "." ++ entry.1.keyText), entry.2)) =
      flattenOnto (joinKey outer (.text s)) flat inner := by
  induction inner generalizing flat with
  | nil => simp only [List.map_nil, flattenOnto]
  | cons entry rest ih =>
    obtain ⟨key, v⟩ := entry
    simp only [List.map_cons, flattenOnto, joinKey_dots named, ih]

theorem spelled_dots (s : String) {inner : List (Scalar × Value)} (spelled : Spelled (· ≠ "") inner) :
    Spelled (· ≠ "") (inner.map fun entry => (.text (s ++ "." ++ entry.1.keyText), entry.2)) := by
  induction spelled with
  | nil => exact .nil
  | leaf _ leaf _ later => exact .leaf (insideKey_ne_empty s _) leaf later
  | inner _ within _ _ later => exact .inner (insideKey_ne_empty s _) within later

/-- However settings are spelled, the same ones come of them, in the same order. -/
theorem flattenOnto_eq (respelled : Respelled entries entries') (spelled : Spelled (· ≠ "") entries) :
    Spelled (· ≠ "") entries' ∧ ∀ outer flat, flattenOnto outer flat entries' = flattenOnto outer flat entries := by
  induction respelled with
  | dots front s inner rest =>
    obtain ⟨before, spelled⟩ := Spelled.append_iff.mp spelled
    cases spelled with
    | leaf _ leaf => cases leaf
    | inner named within behind =>
      have first := Spelled.append_iff.mpr ⟨before, spelled_dots s within⟩
      refine ⟨Spelled.append_iff.mpr ⟨first, behind⟩, fun outer flat => ?_⟩
      rw [flattenOnto_append, flattenOnto_append, flattenOnto_append, flattenOnto_dots named, flattenOnto_map]
  | drop front key rest =>
    obtain ⟨before, spelled⟩ := Spelled.append_iff.mp spelled
    have behind : Spelled (· ≠ "") rest := by
      cases spelled
      assumption
    refine ⟨Spelled.append_iff.mpr ⟨before, behind⟩, fun outer flat => ?_⟩
    rw [flattenOnto_append, flattenOnto_append, flattenOnto_null]
  | within front key rest _ ih =>
    obtain ⟨before, spelled⟩ := Spelled.append_iff.mp spelled
    cases spelled with
    | leaf _ leaf => cases leaf
    | inner named within behind =>
      obtain ⟨within, same⟩ := ih within
      refine ⟨Spelled.append_iff.mpr ⟨before, .inner named within behind⟩, fun outer flat => ?_⟩
      rw [flattenOnto_append, flattenOnto_append, flattenOnto_map, flattenOnto_map, same]

end Respelled

/-- Settings under their dotted keys as a mapping again. -/
def Flat.document (flat : Flat) : List (Scalar × Value) := flat.map fun entry => (.text entry.1, entry.2)

/-- Settings that have been taken apart are not taken apart any further. -/
theorem Flat.flatten_document {flat : Flat} (apart : (Entries.keys flat).Nodup)
    (leaves : ∀ entry ∈ flat, entry.2.isLeaf = true ∧ entry.2.isNull = false) : flatten "" flat.document = flat := by
  have onto (before : Flat) : flattenOnto "" before flat.document = before.merge flat := by
    clear apart
    induction flat generalizing before with
    | nil => simp only [document, List.map_nil, flattenOnto, Entries.merge, List.foldl_nil]
    | cons entry rest ih =>
      obtain ⟨ends, value⟩ := leaves entry (List.mem_cons_self ..)
      have later := ih (fun other member => leaves other (List.mem_cons_of_mem _ member)) (before.put entry.1 entry.2)
      have first : flattenEntry (joinKey "" (.text entry.1)) entry.2 = [entry] := by
        simp [flattenEntry_of_leaf ends, value, joinKey, Scalar.keyText]
      simp only [document, List.map_cons, flattenOnto, first]
      exact later
  rw [flatten, onto, Entries.merge_of_apart (by simpa using apart), List.nil_append]

namespace Spelled

variable {P : String → Prop} {entries : List (Scalar × Value)}

/-- A setting stands at the end of a trail that begins with a key, and is a leaf. -/
theorem of_mem_settingLeaves (spelled : Spelled P entries) {leaf : Trail × Value}
    (member : leaf ∈ settingLeaves entries) : (∃ s p, leaf.1 = s.toList :: p ∧ P s) ∧ leaf.2.isMapping = false ∧ leaf.2.isNull = false := by
  induction spelled generalizing leaf with
  | nil => cases member
  | @leaf s v rest named ends _ later =>
    rw [settingLeaves_leaf (Value.isMapping_eq_false.mp ends).1] at member
    rcases List.mem_append.mp member with here | there
    · cases null : v.isNull with
      | true => simp [null] at here
      | false =>
        simp only [null, Bool.false_eq_true, if_false, List.mem_singleton] at here
        subst here
        exact ⟨⟨s, [], rfl, named⟩, ends, null⟩
    · exact later there
  | @inner s within rest named _ _ below later =>
    rw [settingLeaves_map] at member
    rcases List.mem_append.mp member with here | there
    · obtain ⟨leaf, inside, rfl⟩ := List.mem_map.mp here
      exact ⟨⟨s, leaf.1, rfl, named⟩, (below inside).2⟩
    · exact later there

/-- What settings are taken apart into is a mapping of leaves under keys that are not empty. -/
theorem of_mem_flatten (spelled : Spelled (· ≠ "") entries) {outer : String} {entry : String × Value}
    (member : entry ∈ flatten outer entries) :
    entry.1 ≠ "" ∧ entry.2.isMapping = false ∧ entry.2.isNull = false := by
  rw [spelled.flatten_eq (.inr fun _ named => named)] at member
  obtain ⟨leaf, there, rfl⟩ := List.mem_map.mp ((Entries.mem_merge member).resolve_left (by simp))
  obtain ⟨⟨s, p, shape, named⟩, value⟩ := spelled.of_mem_settingLeaves there
  refine ⟨fun blank => ?_, value⟩
  have fit : dotted (root outer) ≠ "" ∨ root outer = [] ∧ s ≠ "" := by
    by_cases blank : outer = ""
    · exact .inr ⟨by simp [root, blank], named⟩
    · exact .inl (by rwa [dotted_root])
  have front := (dotted_concat fit).2
  simp only [shape] at blank
  by_cases more : p = []
  · subst more
    exact front blank
  · have joined : joinWith '.' (root outer ++ [s.toList] ++ p) =
        joinWith '.' (root outer ++ [s.toList]) ++ '.' :: joinWith '.' p :=
      joinWith_append '.' (by simp) more
    have none := congrArg String.toList blank
    rw [dotted, String.toList_ofList, List.append_cons, joined] at none
    simp at none

theorem of_leaves {flat : Flat} (leaves : ∀ entry ∈ flat, P entry.1 ∧ entry.2.isMapping = false) :
    Spelled P flat.document := by
  induction flat with
  | nil => exact .nil
  | cons entry rest ih =>
    obtain ⟨named, leaf⟩ := leaves entry (List.mem_cons_self ..)
    exact .leaf named leaf (ih fun other member => leaves other (List.mem_cons_of_mem _ member))

/-- Nested and dotted settings are the same. A mapping whose keys are texts that are not empty is taken apart by
writing its leaves one by one, in the order of the document, under the keys that their trails make up: a leaf
written later takes the place of one under the same key, and nulls are not written. Where the entries of a mapping
inside stand under dotted keys in its place, or a null is left out, the same settings come of it, and settings that
have been taken apart stay as they are. -/
theorem flatten_written (spelled : Spelled (· ≠ "") entries) :
    entriesFault? entries = none ∧
    (∀ outer, flatten outer entries = Entries.merge [] (keyed (root outer) (settingLeaves entries))) ∧
    (∀ entries', Respelled entries entries' →
      Spelled (· ≠ "") entries' ∧ ∀ outer, flatten outer entries' = flatten outer entries) ∧
    ∀ outer, Spelled (· ≠ "") (flatten outer entries).document ∧
      flatten "" (flatten outer entries).document = flatten outer entries := by
  refine ⟨spelled.entriesFault?_eq_none, fun outer => spelled.flatten_eq (.inr fun _ named => named),
    fun entries' respelled => ?_, fun outer => ⟨?_, ?_⟩⟩
  · obtain ⟨spelled', same⟩ := respelled.flattenOnto_eq spelled
    exact ⟨spelled', fun outer => same outer []⟩
  · exact of_leaves fun entry member => ⟨(spelled.of_mem_flatten member).1, (spelled.of_mem_flatten member).2.1⟩
  · refine Flat.flatten_document (nodup_flattenOnto outer entries List.nodup_nil) fun entry member => ?_
    obtain ⟨_, leaf, value⟩ := spelled.of_mem_flatten member
    exact ⟨(Value.isMapping_eq_false.mp leaf).1, value⟩

end Spelled

/-- Settings of which two come to one key, nested in the first place and half dotted in the second. -/
def tangledSettings : List (Scalar × Value) :=
  [(.text "x", .map [(.text "y", .map [(.text "z", .scalar (.int 1)), (.text "w", .null)])]),
    (.text "x.y", .map [(.text "v", .text "new"), (.text "z", .scalar (.int 2))])]

/-- The key that is written first stays in front with the value that is written last, also where the second mapping
is written out under dotted keys. -/
theorem flatten_written_tangled : Spelled (· ≠ "") tangledSettings ∧
    flatten "" tangledSettings = [("x.y.z", .scalar (.int 2)), ("x.y.v", .text "new")] ∧
    flatten "" [(.text "x", .map [(.text "y", .map [(.text "z", .scalar (.int 1)), (.text "w", .null)])]),
      (.text "x.y.v", .text "new"), (.text "x.y.z", .scalar (.int 2))] = flatten "" tangledSettings := by
  have first : Spelled (· ≠ "") [(.text "z", .scalar (.int 1)), (.text "w", .null)] :=
    .leaf (by decide) rfl (.leaf (by decide) rfl .nil)
  have last : Spelled (· ≠ "") [(.text "v", .text "new"), (.text "z", .scalar (.int 2))] :=
    .leaf (by decide) rfl (.leaf (by decide) rfl .nil)
  have spelled : Spelled (· ≠ "") tangledSettings :=
    .inner (by decide) (.inner (by decide) first .nil) (.inner (by decide) last .nil)
  obtain ⟨_, written, respelled, _⟩ := spelled.flatten_written
  refine ⟨spelled, ?_, (respelled _ (.dots [_] "x.y" _ [])).2 ""⟩
  rw [written]
  rfl

end LayeredSettings

import LayeredSettings.Proofs.Value.Equality
import LayeredSettings.Value.Comparison

namespace LayeredSettings

theorem Scalar.same_self (s : Scalar) : s.same s = true := Scalar.same_iff.mpr rfl

namespace Value

mutual

/-- Whether no mapping in a value holds two keys that are the same. -/
def keysApart : Value → Bool
  | .list items => allKeysApart items
  | .tuple items => allKeysApart items
  | .map entries =>
    decide ((entries.map Prod.fst).Pairwise fun key other => key.same other = false) && entriesKeysApart entries
  | .scalar _ | .set _ | .enclosing _ => true

def allKeysApart : List Value → Bool
  | [] => true
  | v :: rest => keysApart v && allKeysApart rest

def entriesKeysApart : List (Scalar × Value) → Bool
  | [] => true
  | (_, v) :: rest => keysApart v && entriesKeysApart rest

end

/-- Not a number as a value of its own, not in a collection. -/
def isNan : Value → Bool
  | .scalar s => s.isNan
  | _ => false

/-- Among keys that are apart each entry is found under its own. -/
theorem find?_same {entries : List (Scalar × Value)}
    (apart : (entries.map Prod.fst).Pairwise fun key other => key.same other = false) {entry : Scalar × Value}
    (member : entry ∈ entries) : entries.find? (fun other => entry.1.same other.1) = some entry := by
  induction entries with
  | nil => cases member
  | cons first rest ih =>
    obtain ⟨new, apart⟩ := List.pairwise_cons.mp apart
    rw [List.find?_cons]
    rcases List.mem_cons.mp member with rfl | later
    · rw [Scalar.same_self]
    · have other : entry.1.same first.1 = false := by
        rw [← new entry.1 (List.mem_map_of_mem later), Bool.eq_iff_iff, Scalar.same_iff, Scalar.same_iff, eq_comm]
      rw [other]
      exact ih apart later

mutual

theorem same_self : ∀ {v : Value}, v.keysApart = true → v.same v = true
  | .scalar s, _ => s.same_self
  | .list items, apart | .tuple items, apart => sameItems_self apart
  | .map entries, apart => by
    simp only [keysApart, Bool.and_eq_true, decide_eq_true_eq] at apart
    simp only [same, beq_self_eq_true, Bool.true_and]
    exact sameEntries_self apart.2 fun entry member => find?_same apart.1 member
  | .set items, _ => by
    simp only [same, beq_self_eq_true, Bool.true_and, List.all_eq_true, List.any_eq_true]
    exact fun x member => ⟨x, member, x.same_self⟩
  | .enclosing e, _ => by simp [same]

theorem sameItems_self : ∀ {items : List Value}, allKeysApart items = true → sameItems items items = true
  | [], _ => rfl
  | v :: rest, apart => by
    simp only [allKeysApart, Bool.and_eq_true] at apart
    simp only [sameItems, same_self apart.1, sameItems_self apart.2, Bool.and_self]

theorem sameEntries_self : ∀ {entries others : List (Scalar × Value)}, entriesKeysApart entries = true →
    (∀ entry ∈ entries, others.find? (fun other => entry.1.same other.1) = some entry) →
    sameEntries entries others = true
  | [], _, _, _ => rfl
  | (k, v) :: rest, others, apart, own => by
    simp only [entriesKeysApart, Bool.and_eq_true] at apart
    have first := own (k, v) (List.mem_cons_self ..)
    have later := sameEntries_self apart.2 fun entry member => own entry (List.mem_cons_of_mem _ member)
    simp only [sameEntries, first, same_self apart.1, later, Bool.and_self]

end

/-- A value equals itself unless it is not a number. -/
theorem equal_self_iff {v : Value} (apart : v.keysApart = true) : v.equal v = true ↔ v.isNan = false := by
  rw [equal_iff, and_iff_right (same_self apart)]
  cases v with
  | scalar s => simp [isNan]
  | list | tuple | map | set | enclosing => simp [isNan]

theorem size_pos (v : Value) : 0 < v.size := by
  cases v <;> simp [size]

mutual

/-- A value is compared with itself without being unfolded, in a number of steps that its size bounds. -/
theorem compareInside_self : ∀ {v : Value} {fuel : Nat} (outer outer' : List Value), v.keysApart = true →
    2 * v.size ≤ fuel + 1 → compareInside fuel ⟨outer, v⟩ ⟨outer', v⟩ = some true
  | v, 0, _, _, _, enough => by
    have positive := v.size_pos
    omega
  | .scalar s, fuel + 1, _, _, _, _ => by simp [compareInside, same, s.same_self]
  | .list items, fuel + 1, _, _, apart, enough => by
    simp only [size] at enough
    simp only [compareInside, if_true]
    exact compareItems_self _ _ apart (by omega)
  | .tuple items, fuel + 1, _, _, apart, enough => by
    simp only [size] at enough
    simp only [compareInside]
    exact compareItems_self _ _ apart (by omega)
  | .map entries, fuel + 1, _, _, apart, enough => by
    simp only [size] at enough
    simp only [keysApart, Bool.and_eq_true, decide_eq_true_eq] at apart
    simp only [compareInside, if_true]
    exact compareEntries_self _ _ apart.2 (fun entry member => find?_same apart.1 member) (by omega)
  | .set items, fuel + 1, _, _, apart, _ => by simp [compareInside, same_self apart]
  | .enclosing e, fuel + 1, _, _, _, _ => by simp [compareInside]

theorem compareItems_self : ∀ {items : List Value} {fuel : Nat} (v w : Inside), allKeysApart items = true →
    2 * sizes items ≤ fuel → compareItems fuel v w items items = some true
  | [], _, _, _, _, _ => by simp [compareItems]
  | x :: rest, 0, _, _, _, enough => by
    have positive := x.size_pos
    simp only [sizes] at enough
    omega
  | x :: rest, fuel + 1, v, w, apart, enough => by
    simp only [allKeysApart, Bool.and_eq_true] at apart
    simp only [sizes] at enough
    have positive := x.size_pos
    have first : compareInside fuel (v.part x) (w.part x) = some true :=
      compareInside_self _ _ apart.1 (by omega)
    have later : compareItems fuel v w rest rest = some true := compareItems_self v w apart.2 (by omega)
    simp [compareItems, first, later]

theorem compareEntries_self : ∀ {entries others : List (Scalar × Value)} {fuel : Nat} (v w : Inside),
    entriesKeysApart entries = true →
    (∀ entry ∈ entries, others.find? (fun other => entry.1.same other.1) = some entry) →
    2 * entrySizes entries ≤ fuel → compareEntries fuel v w entries others = some true
  | [], _, _, _, _, _, _, _ => by simp [compareEntries]
  | (k, x) :: rest, others, 0, _, _, _, _, enough => by
    have positive := x.size_pos
    simp only [entrySizes] at enough
    omega
  | (k, x) :: rest, others, fuel + 1, v, w, apart, own, enough => by
    simp only [entriesKeysApart, Bool.and_eq_true] at apart
    simp only [entrySizes] at enough
    have positive := x.size_pos
    have found := own (k, x) (List.mem_cons_self ..)
    have first : compareInside fuel (v.part x) (w.part x) = some true :=
      compareInside_self _ _ apart.1 (by omega)
    have later : compareEntries fuel v w rest others = some true :=
      compareEntries_self v w apart.2 (fun entry member => own entry (List.mem_cons_of_mem _ member)) (by omega)
    simp [compareEntries, found, first, later]

end

/-- Whether a value differs from itself can always be told. -/
theorem neverDiffers_self {v : Value} (apart : v.keysApart = true) : v.neverDiffers v = false := by
  have enough : v.size + v.size + 2 ≤ (v.size * v.size + 1) * (v.size + v.size + 2) :=
    Nat.le_mul_of_pos_left _ (Nat.succ_pos _)
  rw [neverDiffers, compareInside_self [] [] apart (by omega)]
  rfl

end Value

end LayeredSettings

namespace LayeredSettings

variable {κ ν : Type}

/-- Entries in the order in which their keys first appeared. -/
abbrev Entries (κ ν : Type) := List (κ × ν)

namespace Entries

/-- Writes an entry: in place where an equal key is there already, which then
stays as it is, else at the end. -/
def putBy (same : κ → κ → Bool) (entries : Entries κ ν) (key : κ) (value : ν) : Entries κ ν :=
  match entries with
  | [] => [(key, value)]
  | (k, v) :: rest => if same k key then (k, value) :: rest else (k, v) :: putBy same rest key value

def put [DecidableEq κ] (entries : Entries κ ν) (key : κ) (value : ν) : Entries κ ν :=
  entries.putBy (fun a b => decide (a = b)) key value

def get? [DecidableEq κ] (entries : Entries κ ν) (key : κ) : Option ν :=
  match entries with
  | [] => none
  | (k, v) :: rest => if k = key then some v else get? rest key

def keys (entries : Entries κ ν) : List κ := entries.map Prod.fst

/-- Writes every entry of the second list into the first, one after the other. -/
def merge [DecidableEq κ] (entries others : Entries κ ν) : Entries κ ν :=
  others.foldl (fun all entry => all.put entry.1 entry.2) entries

def erase [DecidableEq κ] (entries : Entries κ ν) (key : κ) : Entries κ ν :=
  entries.filter fun entry => decide (entry.1 ≠ key)

theorem get?_put [DecidableEq κ] (entries : Entries κ ν) (key k : κ) (value : ν) :
    (entries.put key value).get? k = if k = key then some value else entries.get? k := by
  induction entries with
  | nil => simp only [put, putBy, get?, eq_comm]
  | cons entry rest ih =>
    simp only [put] at ih
    simp only [put, putBy, decide_eq_true_eq]
    split
    · next h => subst h; simp only [get?]; split <;> simp_all [eq_comm]
    · next h => simp only [get?, ih]; split <;> simp_all

theorem get?_map [DecidableEq κ] {μ : Type} (f : ν → μ) (entries : Entries κ ν) (key : κ) :
    get? (entries.map fun entry => (entry.1, f entry.2)) key = (entries.get? key).map f := by
  induction entries with
  | nil => rfl
  | cons entry rest ih =>
    rw [List.map_cons, get?, get?, ih]
    split <;> rfl

theorem get?_erase [DecidableEq κ] (entries : Entries κ ν) (key k : κ) :
    (entries.erase key).get? k = if k = key then none else entries.get? k := by
  induction entries with
  | nil => simp [erase, get?]
  | cons entry rest ih =>
    by_cases here : entry.1 = key
    · have gone : erase (entry :: rest) key = erase rest key := by simp [erase, here]
      rw [gone, ih, get?, here]
      by_cases same : k = key
      · rw [if_pos same, if_pos same]
      · rw [if_neg same, if_neg same, if_neg (Ne.symm same)]
    · have stays : erase (entry :: rest) key = entry :: erase rest key := by simp [erase, here]
      rw [stays, get?, get?, ih]
      by_cases same : k = key
      · rw [if_pos same, if_pos same, if_neg (same ▸ here)]
      · rw [if_neg same, if_neg same]

theorem mem_keys_iff [DecidableEq κ] {entries : Entries κ ν} {key : κ} :
    key ∈ entries.keys ↔ ∃ value, entries.get? key = some value := by
  induction entries with
  | nil => simp [keys, get?]
  | cons entry rest ih =>
    simp only [keys, List.map_cons, List.mem_cons, get?] at ih ⊢
    by_cases here : entry.1 = key
    · simp [here]
    · simp [here, Ne.symm here, ih]

theorem mem_of_get? [DecidableEq κ] {entries : Entries κ ν} {key : κ} {value : ν}
    (found : entries.get? key = some value) : (key, value) ∈ entries := by
  induction entries with
  | nil => cases found
  | cons entry rest ih =>
    simp only [get?] at found
    split at found
    · next here =>
      cases found
      subst here
      exact List.mem_cons_self ..
    · exact List.mem_cons_of_mem _ (ih found)

/-- Where no key stands twice, every entry is found under its key. -/
theorem get?_of_mem [DecidableEq κ] {entries : Entries κ ν} (apart : entries.keys.Nodup) {key : κ} {value : ν}
    (member : (key, value) ∈ entries) : entries.get? key = some value := by
  induction entries with
  | nil => cases member
  | cons entry rest ih =>
    obtain ⟨new, apart⟩ := List.nodup_cons.mp apart
    rcases List.mem_cons.mp member with rfl | later
    · simp [get?]
    · have other : entry.1 ≠ key := fun same => new (same ▸ List.mem_map_of_mem later)
      rw [get?, if_neg other]
      exact ih apart later

theorem mem_put [DecidableEq κ] {entries : Entries κ ν} {key : κ} {value : ν} {entry : κ × ν}
    (member : entry ∈ entries.put key value) : entry = (key, value) ∨ entry ∈ entries := by
  induction entries with
  | nil => exact .inl (List.mem_singleton.mp member)
  | cons first rest ih =>
    simp only [put] at ih
    simp only [put, putBy, decide_eq_true_eq] at member
    split at member
    · next same =>
      rcases List.mem_cons.mp member with rfl | later
      · exact .inl (by rw [same])
      · exact .inr (List.mem_cons_of_mem _ later)
    · rcases List.mem_cons.mp member with rfl | later
      · exact .inr (List.mem_cons_self ..)
      · exact (ih later).imp_right (List.mem_cons_of_mem _)

theorem merge_cons [DecidableEq κ] (entries rest : Entries κ ν) (entry : κ × ν) :
    entries.merge (entry :: rest) = (entries.put entry.1 entry.2).merge rest := rfl

theorem mem_merge [DecidableEq κ] {entries others : Entries κ ν} {entry : κ × ν}
    (member : entry ∈ entries.merge others) : entry ∈ entries ∨ entry ∈ others := by
  induction others generalizing entries with
  | nil => exact .inl member
  | cons first rest ih =>
    rcases ih member with written | later
    · rcases mem_put written with rfl | old
      · exact .inr (List.mem_cons_self ..)
      · exact .inl old
    · exact .inr (List.mem_cons_of_mem _ later)

/-- Keys stay apart when an entry is written. -/
theorem nodup_put [DecidableEq κ] {entries : Entries κ ν} (apart : entries.keys.Nodup) (key : κ) (value : ν) :
    (entries.put key value).keys.Nodup := by
  induction entries with
  | nil => simp [put, putBy, keys]
  | cons entry rest ih =>
    obtain ⟨new, apart⟩ := List.nodup_cons.mp apart
    have others := ih apart
    simp only [put, putBy, decide_eq_true_eq]
    split
    · exact List.nodup_cons.mpr ⟨new, apart⟩
    · next other =>
      refine List.nodup_cons.mpr ⟨fun member => new ?_, others⟩
      obtain ⟨v, found⟩ := mem_keys_iff.mp member
      refine mem_keys_iff.mpr ⟨v, ?_⟩
      have written := get?_put rest key entry.1 value
      rw [if_neg other] at written
      exact written.symm.trans found

theorem nodup_merge [DecidableEq κ] {entries : Entries κ ν} (apart : entries.keys.Nodup) (others : Entries κ ν) :
    (entries.merge others).keys.Nodup := by
  induction others generalizing entries with
  | nil => exact apart
  | cons entry rest ih => exact ih (nodup_put apart entry.1 entry.2)

theorem nodup_filter {entries : Entries κ ν} (apart : entries.keys.Nodup) (p : κ × ν → Bool) :
    (keys (entries.filter p)).Nodup :=
  apart.sublist (List.filter_sublist.map Prod.fst)

/-- Of two entries under one key the one written last counts. -/
theorem get?_merge [DecidableEq κ] (entries : Entries κ ν) {others : Entries κ ν} (apart : others.keys.Nodup)
    (key : κ) : (entries.merge others).get? key = (others.get? key).or (entries.get? key) := by
  induction others generalizing entries with
  | nil => rfl
  | cons entry rest ih =>
    obtain ⟨new, apart⟩ := List.nodup_cons.mp apart
    rw [merge_cons, ih _ apart, get?_put]
    simp only [get?]
    by_cases here : entry.1 = key
    · subst here
      have none : get? rest entry.1 = none := by
        cases found : get? rest entry.1 with
        | none => rfl
        | some v => exact absurd (mem_keys_iff.mpr ⟨v, found⟩) new
      simp [none]
    · simp [here, Ne.symm here]

end Entries

end LayeredSettings

import Mathlib
import LayeredSettings.Files.Load
import LayeredSettings.Proofs.Value.Reflexivity

set_option mvcgen.warning false

namespace LayeredSettings

open Std.Do

/-- Keys that are written one after the other are apart, each being written in its place if it is there already. -/
theorem Entries.pairwise_putBy {κ ν : Type} {same : κ → κ → Bool} {entries : Entries κ ν}
    (apart : entries.keys.Pairwise fun key other => same key other = false) (key : κ) (value : ν) :
    (keys (entries.putBy same key value)).Pairwise fun key other => same key other = false := by
  have old {entries : Entries κ ν} {k : κ} (member : k ∈ keys (entries.putBy same key value)) :
      k ∈ entries.keys ∨ k = key := by
    induction entries with
    | nil => exact .inr (List.mem_singleton.mp member)
    | cons entry rest ih =>
      simp only [putBy] at member
      split at member
      · exact .inl member
      · rcases List.mem_cons.mp member with rfl | later
        · exact .inl (List.mem_cons_self ..)
        · exact (ih later).imp_left (List.mem_cons_of_mem _)
  induction entries with
  | nil => exact List.pairwise_singleton ..
  | cons entry rest ih =>
    obtain ⟨new, apart⟩ := List.pairwise_cons.mp apart
    simp only [putBy]
    split
    · exact List.pairwise_cons.mpr ⟨new, apart⟩
    · next other =>
      refine List.pairwise_cons.mpr ⟨fun k member => ?_, ih apart⟩
      rcases old member with earlier | rfl
      · exact new k earlier
      · exact Bool.eq_false_iff.mpr other

namespace Yaml

section

variable {σ α β : Type} {ps : PostShape} {m : Type → Type} [Monad m] [WPMonad m (.arg σ ps)] {P : σ → Prop}
  {xs : List α}

/-- What a computation keeps, and how its answer belongs to an item, for all the items of a list. -/
theorem mapM_spec {f : α → m β} {R : α → β → Prop}
    (each : ∀ x ∈ xs, ⦃fun s => ⌜P s⌝⦄ f x ⦃⇓? y => fun s => ⌜P s ∧ R x y⌝⦄) :
    ⦃fun s => ⌜P s⌝⦄ xs.mapM f ⦃⇓? ys => fun s => ⌜P s ∧ List.Forall₂ R xs ys⌝⦄ := by
  induction xs with
  | nil =>
    rw [List.mapM_nil]
    mvcgen
    next kept => exact SPred.pure_intro ⟨kept, .nil⟩
  | cons x rest ih =>
    have first := each x (List.mem_cons_self ..)
    have later := ih fun x member => each x (List.mem_cons_of_mem _ member)
    rw [List.mapM_cons]
    mvcgen [first, later]
    · next kept => exact SPred.pure_intro kept.1
    · next kept _ _ kept' => exact SPred.pure_intro ⟨kept'.1, .cons kept.2 kept'.2⟩

theorem forM_spec {f : α → m PUnit} (each : ∀ x ∈ xs, ⦃fun s => ⌜P s⌝⦄ f x ⦃⇓? _ => fun s => ⌜P s⌝⦄) :
    ⦃fun s => ⌜P s⌝⦄ xs.forM f ⦃⇓? _ => fun s => ⌜P s⌝⦄ := by
  induction xs with
  | nil =>
    rw [List.forM_eq_forM, List.forM_nil]
    mvcgen
  | cons x rest ih =>
    have first := each x (List.mem_cons_self ..)
    have later := ih fun x member => each x (List.mem_cons_of_mem _ member)
    rw [List.forM_eq_forM, List.forM_cons]
    mvcgen [first, later]

end

/-- All that is noted in a table has a property. -/
def Noted {α : Type} (P : α → Prop) (table : Array (Option α)) : Prop :=
  ∀ (n : Nat) x, table[n]? = some (some x) → P x

namespace Noted

variable {α : Type} {P : α → Prop}

theorem empty (size : Nat) : Noted P (Array.replicate size none) := by
  intro n x found
  simp [Array.getElem?_replicate] at found

theorem set {table : Array (Option α)} (noted : Noted P table) (n : Nat) {x : α} (own : P x) :
    Noted P (table.setIfInBounds n (some x)) := by
  intro k y found
  rw [Array.getElem?_setIfInBounds] at found
  split at found
  · split at found
    · cases found
      exact own
    · cases found
  · exact noted k y found

end Noted

/-- A node that has been read as a map holds no two keys that are the same. -/
def Made.Apart : Made → Prop
  | .map entries => (entries.map Prod.fst).Pairwise fun key other => key.same other = false
  | _ => True

/-- So it is with all nodes that have been read. -/
def Building.Apart (b : Building) : Prop := Noted Made.Apart b.made

theorem Made.apart_written (pairs : List (Scalar × Nat)) :
    (Made.map (pairs.foldl (fun entries pair => Entries.putBy Scalar.same entries pair.1 pair.2) [])).Apart := by
  suffices onward : ∀ entries : List (Scalar × Nat), (Made.map entries).Apart →
      (Made.map (pairs.foldl (fun entries pair => Entries.putBy Scalar.same entries pair.1 pair.2) entries)).Apart from
    onward [] .nil
  induction pairs with
  | nil => exact fun _ apart => apart
  | cons pair rest ih => exact fun _ apart => ih _ (Entries.pairwise_putBy apart pair.1 pair.2)

namespace Builder

variable {α β : Type} {P : Building → Prop} {Q : α → Building → Prop}

/-- A reading that fails leaves nothing to be said of. -/
@[spec high]
theorem throw_spec (f : YamlFault) : ⦃fun b => ⌜P b⌝⦄ (throw f : Builder α) ⦃⇓? a => fun b => ⌜Q a b⌝⦄ := by
  intro b _
  trivial

@[spec high]
theorem malformed_spec : ⦃fun b => ⌜P b⌝⦄ (malformed : Builder α) ⦃⇓? a => fun b => ⌜Q a b⌝⦄ := throw_spec _

/-- What is only looked at changes nothing. -/
@[spec]
theorem lift_spec (x : Except YamlFault α) : ⦃⌜True⌝⦄ x ⦃⇓? _ => ⌜True⌝⦄ := by
  intro _
  cases x <;> trivial

@[spec]
theorem mapM_apart {f : α → Builder β} {xs : List α}
    (each : ∀ x ∈ xs, ⦃fun b => ⌜b.Apart⌝⦄ f x ⦃⇓? _ => fun b => ⌜b.Apart⌝⦄) :
    ⦃fun b => ⌜b.Apart⌝⦄ xs.mapM f ⦃⇓? _ => fun b => ⌜b.Apart⌝⦄ := by
  have all : ⦃fun b => ⌜b.Apart⌝⦄ xs.mapM f ⦃⇓? ys => fun b => ⌜b.Apart ∧ List.Forall₂ (fun _ _ => True) xs ys⌝⦄ :=
    mapM_spec fun x member => by
      have own := each x member
      mvcgen [own]
      exact fun kept => kept
  mvcgen [all]
  exact fun kept _ => kept

@[spec]
theorem forM_apart {f : α → Builder PUnit} {xs : List α}
    (each : ∀ x ∈ xs, ⦃fun b => ⌜b.Apart⌝⦄ f x ⦃⇓? _ => fun b => ⌜b.Apart⌝⦄) :
    ⦃fun b => ⌜b.Apart⌝⦄ xs.forM f ⦃⇓? _ => fun b => ⌜b.Apart⌝⦄ := forM_spec each

@[spec]
theorem setMade_spec (n : Nat) (made : Made) (apart : made.Apart) :
    ⦃fun b => ⌜b.Apart⌝⦄ setMade n made ⦃⇓? _ => fun b => ⌜b.Apart⌝⦄ := by
  mvcgen [setMade]
  next noted _ => exact Noted.set noted n apart

@[spec]
theorem await_spec (n : Nat) (made : Made) (apart : made.Apart) :
    ⦃fun b => ⌜b.Apart⌝⦄ await n made ⦃⇓? _ => fun b => ⌜b.Apart⌝⦄ := by
  mvcgen [await]

variable (reading n : Nat)

@[spec]
theorem makeScalar_spec (node : Node) :
    ⦃fun b => ⌜b.Apart⌝⦄ makeScalar reading n node ⦃⇓? _ => fun b => ⌜b.Apart⌝⦄ := by
  mvcgen [makeScalar]

@[spec]
theorem make_spec : ⦃fun b => ⌜b.Apart⌝⦄ make reading n ⦃⇓? _ => fun b => ⌜b.Apart⌝⦄ := by
  mvcgen [make, made?]
  exact .nil

@[spec]
theorem makeKey_spec : ⦃fun b => ⌜b.Apart⌝⦄ makeKey reading n ⦃⇓? _ => fun b => ⌜b.Apart⌝⦄ := by
  mvcgen [makeKey, made?]

@[spec]
theorem pairOf_spec : ⦃fun b => ⌜b.Apart⌝⦄ pairOf reading n ⦃⇓? _ => fun b => ⌜b.Apart⌝⦄ := by
  mvcgen [pairOf]

@[spec]
theorem entriesOf_spec :
    ⦃fun b => ⌜b.Apart⌝⦄ entriesOf reading n ⦃⇓? entries => fun b => ⌜b.Apart ∧ (Made.map entries).Apart⌝⦄ := by
  mvcgen [entriesOf]
  next kept => exact ⟨kept, Made.apart_written _⟩

@[spec]
theorem fill_spec : ⦃fun b => ⌜b.Apart⌝⦄ fill reading n ⦃⇓? _ => fun b => ⌜b.Apart⌝⦄ := by
  mvcgen [fill]
  · exact fun _ _ => trivial
  · exact fun _ _ => trivial
  · exact fun _ _ => trivial
  · next kept => exact kept.1
  · exact fun _ _ own => own
  · next kept => exact kept.1
  · exact fun _ _ _ => trivial

theorem fillAll_zero : fillAll reading 0 = (do
    match (← get).waiting with
    | [] => return
    | _ => malformed) := by
  delta fillAll
  funext ⟨graph, made, waiting⟩
  cases waiting <;> rfl

theorem fillAll_succ (count : Nat) : fillAll reading (count + 1) = (do
    match (← get).waiting with
    | [] => return
    | n :: rest =>
      modify fun b => { b with waiting := rest }
      fill reading n
      fillAll reading count) := by
  delta fillAll
  funext ⟨graph, made, waiting⟩
  cases waiting <;> rfl

@[spec]
theorem fillAll_spec (count : Nat) :
    ⦃fun b => ⌜b.Apart⌝⦄ fillAll reading count ⦃⇓? _ => fun b => ⌜b.Apart⌝⦄ := by
  induction count with
  | zero =>
    rw [fillAll_zero]
    mvcgen
  | succ count ih =>
    rw [fillAll_succ]
    mvcgen [ih]

theorem readFrom_spec (root : Nat) :
    ⦃fun b => ⌜b.Apart⌝⦄ readFrom reading root ⦃⇓? _ => fun b => ⌜b.Apart⌝⦄ := by
  mvcgen [readFrom]

end Builder

theorem Graph.apart_of_read {reading : Nat} {graph : Graph} {root : Nat} {made : Array (Option Made)}
    (read : graph.read reading root = .ok made) : Noted Made.Apart made := by
  let b : Building := ⟨graph, Array.replicate graph.size none, []⟩
  obtain ⟨⟨_, b'⟩, run, rfl⟩ : ∃ last, (Builder.readFrom reading root).run b = .ok last ∧ last.2.made = made := by
    unfold Graph.read at read
    cases run : (Builder.readFrom reading root).run b with
    | error fault =>
      rw [run] at read
      cases read
    | ok last =>
      rw [run] at read
      cases read
      exact ⟨last, rfl, rfl⟩
  have kept : (wp⟦(Builder.readFrom reading root).run b⟧ _).down := Builder.readFrom_spec reading root b (Noted.empty _)
  rw [run] at kept
  exact kept

namespace Reading

/-- No value that is known holds the same key twice. -/
def Sound (known : Array (Option Value)) : Prop := Noted (fun v : Value => v.keysApart = true) known

variable {r : Reading}

theorem keysApart_of_enclosing {path : List (Option Nat)} {n : Nat} {v : Value} (found : r.enclosing? path n = some v) :
    v.keysApart = true := by
  obtain ⟨level, _, rfl⟩ := Option.map_eq_some_iff.mp found
  simp [Value.keysApart]

theorem keysApart_list {α : Type} {xs : List α} {parts : List (Value × Bool)}
    (alike : List.Forall₂ (fun _ part => part.1.keysApart = true) xs parts) :
    (Value.list (parts.map Prod.fst)).keysApart = true := by
  rw [Value.keysApart]
  induction alike with
  | nil => rfl
  | cons first _ ih => simp only [List.map_cons, Value.allKeysApart, first, ih, Bool.and_self]

theorem keysApart_map {entries : List (Scalar × Nat)} {parts : List (Scalar × Value)} (own : (Made.map entries).Apart)
    (alike : List.Forall₂ (fun entry part => part.1 = entry.1 ∧ part.2.keysApart = true) entries parts) :
    (Value.map parts).keysApart = true := by
  have keys : parts.map Prod.fst = entries.map Prod.fst := by
    clear own
    induction alike with
    | nil => rfl
    | cons first _ ih => simp only [List.map_cons, first.1, ih]
  have inside : Value.entriesKeysApart parts = true := by
    clear own keys
    induction alike with
    | nil => rfl
    | cons first _ ih => simp only [Value.entriesKeysApart, first.2, ih, Bool.and_self]
  rw [Value.keysApart, keys, inside, Bool.and_true, decide_eq_true_eq]
  exact own

theorem items_spec {α : Type} {f : α → Known (Value × Bool)} {xs : List α}
    (each : ∀ x ∈ xs, ⦃fun known => ⌜Sound known⌝⦄ f x
      ⦃⇓? (part : Value × Bool) => fun known => ⌜Sound known ∧ part.1.keysApart = true⌝⦄) :
    ⦃fun known => ⌜Sound known⌝⦄ xs.mapM f
    ⦃⇓? parts => fun known => ⌜Sound known ∧ (Value.list (parts.map Prod.fst)).keysApart = true⌝⦄ := by
  have all := mapM_spec (R := fun (_ : α) (part : Value × Bool) => part.1.keysApart = true) each
  mvcgen [all]
  exact fun kept alike => ⟨kept, keysApart_list alike⟩

theorem entries_spec {entries : List (Scalar × Nat)} {f : Scalar × Nat → Known ((Scalar × Value) × Bool)}
    (own : (Made.map entries).Apart)
    (each : ∀ entry ∈ entries, ⦃fun known => ⌜Sound known⌝⦄ f entry
      ⦃⇓? (part : (Scalar × Value) × Bool) => fun known =>
        ⌜Sound known ∧ part.1.1 = entry.1 ∧ part.1.2.keysApart = true⌝⦄) :
    ⦃fun known => ⌜Sound known⌝⦄ entries.mapM f
    ⦃⇓? parts => fun known => ⌜Sound known ∧ (Value.map (parts.map Prod.fst)).keysApart = true⌝⦄ := by
  have all := mapM_spec (R := fun (entry : Scalar × Nat) (part : (Scalar × Value) × Bool) =>
    part.1.1 = entry.1 ∧ part.1.2.keysApart = true) each
  mvcgen [all]
  exact fun kept alike => ⟨kept, keysApart_map own (List.forall₂_map_right_iff.mpr alike)⟩

theorem settings_spec {entries : List (Scalar × Nat)} {f : Scalar × Nat → Known (Scalar × Value)}
    (own : (Made.map entries).Apart)
    (each : ∀ entry ∈ entries, ⦃fun known => ⌜Sound known⌝⦄ f entry
      ⦃⇓? (part : Scalar × Value) => fun known => ⌜Sound known ∧ part.1 = entry.1 ∧ part.2.keysApart = true⌝⦄) :
    ⦃fun known => ⌜Sound known⌝⦄ entries.mapM f
    ⦃⇓? parts => fun known => ⌜Sound known ∧ (Value.map parts).keysApart = true⌝⦄ := by
  have all := mapM_spec (R := fun (entry : Scalar × Nat) (part : Scalar × Value) =>
    part.1 = entry.1 ∧ part.2.keysApart = true) each
  mvcgen [all]
  exact fun kept alike => ⟨kept, keysApart_map own alike⟩

variable (apart : Noted Made.Apart r.made)

include apart

theorem valueAt_spec (fuel : Nat) : ∀ (path : List (Option Nat)) (n : Nat),
    ⦃fun known => ⌜Sound known⌝⦄ r.valueAt fuel path n
    ⦃⇓? part => fun known => ⌜Sound known ∧ part.1.keysApart = true⌝⦄ := by
  induction fuel with
  | zero =>
    intro path n
    rw [valueAt]
    mvcgen
  | succ fuel ih =>
    intro path n
    rw [valueAt]
    mvcgen [ih, items_spec, entries_spec]
    -- What is enclosed or known, then each kind of node, the parts of a pair or an entry before their whole.
    · next enclosed => exact ⟨‹_›, keysApart_of_enclosing enclosed⟩
    · next sound _ _ _ => exact ⟨sound, sound n _ (Option.join_eq_some_iff.mp ‹_›)⟩
    · exact ⟨Noted.set ‹Sound _› n rfl, rfl⟩
    · next kept _ _ _ => exact ⟨Noted.set kept.1 n kept.2, kept.2⟩
    · next kept => exact kept.1
    · next key _ _ value => exact ⟨value.1, by simp [Value.keysApart, Value.allKeysApart, key.2, value.2]⟩
    · next kept _ _ _ => exact ⟨Noted.set kept.1 n kept.2, kept.2⟩
    · next made => exact apart n _ (Option.join_eq_some_iff.mp made)
    · next kept => exact ⟨kept.1, trivial, kept.2⟩
    · next kept _ _ _ => exact ⟨Noted.set kept.1 n kept.2, kept.2⟩
    · exact ⟨Noted.set ‹Sound _› n rfl, rfl⟩
    · exact ⟨Noted.set ‹Sound _› n rfl, rfl⟩

theorem settingAt_spec (fuel : Nat) : ∀ (path : List (Option Nat)) (n : Nat),
    ⦃fun known => ⌜Sound known⌝⦄ r.settingAt fuel path n
    ⦃⇓? v => fun known => ⌜Sound known ∧ v.keysApart = true⌝⦄ := by
  induction fuel with
  | zero =>
    intro path n
    rw [settingAt]
    mvcgen
  | succ fuel ih =>
    intro path n
    rw [settingAt]
    have value := valueAt_spec apart
    mvcgen [ih, settings_spec, value]
    · exact ⟨‹_›, keysApart_of_enclosing ‹_›⟩
    · exact apart n _ (Option.join_eq_some_iff.mp ‹_›)
    · next kept => exact ⟨kept.1, trivial, kept.2⟩

end Reading

end Yaml

/-- No mapping in a value that a loader gives holds two keys that are the same. A later entry takes the place of an
earlier one under the same key. -/
def Loader.KeysApart (load : Loader) : Prop :=
  ∀ (reading : Nat) (s : List Char) (v : Value), load reading s = .ok v → v.keysApart = true

theorem keysApart_loadYaml : Loader.KeysApart loadYaml := by
  intro reading s v loaded
  simp only [loadYaml, Bind.bind, Except.bind] at loaded
  split at loaded
  · cases loaded
  · next parsed _ =>
    split at loaded
    · cases loaded
      rfl
    · next root _ =>
      split at loaded
      · cases loaded
      · next made read =>
        cases loaded
        have apart : Yaml.Noted Yaml.Made.Apart made := Yaml.Graph.apart_of_read read
        exact (Yaml.Reading.settingAt_spec (r := ⟨made, reading⟩) apart (made.size + 1) [] root _
          (Yaml.Noted.empty _)).2

/-- The settings of a document are none, or those of the mapping it is. -/
theorem settingsOfDocument_eq_ok {load : Loader} {reading : Nat} {p : Path} {s : List Char}
    {entries : List (Scalar × Value)} (read : settingsOfDocument load reading p s = .ok entries) :
    entries = [] ∨ load reading s = .ok (.map entries) := by
  unfold settingsOfDocument at read
  split at read
  · cases read
    exact .inl rfl
  · split at read
    · cases read
    · cases read
    · cases read
    · cases read
      exact .inl rfl
    · next loaded =>
      split at read
      · cases read
      · cases read
        exact .inr loaded
    · cases read

/-- No mapping in the settings of a file holds two keys that are the same. -/
theorem Host.keysApart_of_settingsOfFile {host : Host} (apart : host.loader.KeysApart) {reading : Nat} {p : Path}
    {entries : List (Scalar × Value)} (read : host.settingsOfFile reading p = .ok entries) :
    (Value.map entries).keysApart = true := by
  have none : (Value.map []).keysApart = true := rfl
  unfold settingsOfFile at read
  split at read
  · cases read
  · cases read
  · cases read
    exact none
  · split at read
    · cases read
    · rcases settingsOfDocument_eq_ok read with rfl | loaded
      · exact none
      · exact apart _ _ _ loaded
  · cases read
  · cases read
  · cases read

end LayeredSettings

import LayeredSettings.Placeholder.Resolve
import Mathlib.Data.List.Chain
import Mathlib.Logic.Function.Iterate

namespace LayeredSettings

/-- Values reached by one step after the other, at most `limit` of them: the early ones differ from each other,
and the last one is among them unless the limit is reached. -/
structure IsOrbit {α : Type} (step : α → α) (limit : Nat) (early : List α) (last : α) : Prop where
  steps : (early ++ [last]).IsChain fun before after => after = step before
  distinct : early.Nodup
  bounded : early.length ≤ limit
  stops : early.length < limit → last ∈ early

namespace IsOrbit

variable {α : Type} {step : α → α} {limit : Nat} {early : List α} {last x : α}

theorem step_mem (orbits : IsOrbit step limit early last) (member : x ∈ early) : step x ∈ early ++ [last] := by
  obtain ⟨i, within, rfl⟩ := List.getElem_of_mem member
  have next := List.isChain_iff_getElem.mp orbits.steps i (by simpa using within)
  rw [List.getElem_append_left within] at next
  rw [← next]
  exact List.getElem_mem _

/-- Once the last value is an early one, all further steps stay among the early ones. -/
theorem iterate_mem (orbits : IsOrbit step limit early last) (returns : last ∈ early) (member : x ∈ early) (n : Nat) :
    step^[n] x ∈ early := by
  induction n with
  | zero => exact member
  | succ n ih =>
    rw [Function.iterate_succ_apply']
    rcases List.mem_append.mp (orbits.step_mem ih) with inside | ends
    · exact inside
    · rwa [List.mem_singleton.mp ends]

end IsOrbit

section

variable {α : Type} [DecidableEq α]

/-- Steps end with a value that is among those seen before or is the last one allowed; all before it are new. -/
theorem orbit_split (step : α → α) (limit : Nat) (seen : List α) (current : α) :
    ∃ early last, orbit step (limit + 1) seen current = early ++ [last] ∧ early.Nodup ∧
      (∀ x ∈ early, x ∉ seen) ∧ early.length ≤ limit ∧ (early.length < limit → last ∈ seen ∨ last ∈ early) := by
  induction limit generalizing seen current with
  | zero => exact ⟨[], step current, by simp [orbit], by simp⟩
  | succ limit ih =>
    by_cases old : step current ∈ seen
    · exact ⟨[], step current, by simp [orbit, old], by simp [old]⟩
    · obtain ⟨early, last, whole, once, new, bounded, stops⟩ := ih (step current :: seen) (step current)
      refine ⟨step current :: early, last, ?_, ?_, ?_, ?_, ?_⟩
      · rw [orbit, if_neg old, whole]
        rfl
      · exact List.nodup_cons.mpr ⟨fun again => new _ again (List.mem_cons_self ..), once⟩
      · intro x member
        rcases List.mem_cons.mp member with rfl | later
        · exact old
        · exact fun before => new x later (List.mem_cons_of_mem _ before)
      · simpa using bounded
      · intro short
        rcases stops (by simpa using short) with before | among
        · rcases List.mem_cons.mp before with rfl | before
          · exact .inr (List.mem_cons_self ..)
          · exact .inl before
        · exact .inr (List.mem_cons_of_mem _ among)

theorem isChain_orbit (step : α → α) (limit : Nat) (seen : List α) (current : α) :
    (current :: orbit step limit seen current).IsChain fun before after => after = step before := by
  induction limit generalizing seen current with
  | zero => simp [orbit]
  | succ limit ih =>
    simp only [orbit]
    split
    · simp
    · exact List.isChain_cons_cons.mpr ⟨rfl, ih _ _⟩

theorem isOrbit_orbit (step : α → α) {limit : Nat} (positive : 0 < limit) (start : α) :
    ∃ early last, start :: orbit step limit [start] start = early ++ [last] ∧ early.head? = some start ∧
      IsOrbit step limit early last := by
  obtain ⟨limit, rfl⟩ := Nat.exists_eq_add_of_lt positive
  rw [Nat.zero_add]
  obtain ⟨early, last, whole, once, new, bounded, stops⟩ := orbit_split step limit [start] start
  have steps := isChain_orbit step (limit + 1) [start] start
  rw [whole, ← List.cons_append] at steps
  refine ⟨start :: early, last, by rw [whole]; rfl, rfl, steps, ?_, by simpa using bounded, fun short => ?_⟩
  · exact List.nodup_cons.mpr ⟨fun again => new _ again (List.mem_cons_self ..), once⟩
  · simpa using stops (by simpa using short)

/-- With a smaller limit the same values are yielded, up to the limit. -/
theorem orbit_take (step : α → α) {limit limit' : Nat} (le : limit ≤ limit') (seen : List α) (current : α) :
    orbit step limit seen current = (orbit step limit' seen current).take limit := by
  induction limit generalizing limit' seen current with
  | zero => simp [orbit]
  | succ limit ih =>
    obtain ⟨limit', rfl⟩ := Nat.exists_eq_add_of_le' (Nat.lt_of_lt_of_le (Nat.succ_pos limit) le)
    simp only [orbit]
    split
    · simp
    · rw [List.take_succ_cons, ← ih (by omega)]

/-- Two step functions that agree on all that is stepped from have the same orbit. -/
theorem orbit_congr {step step' : α → α} (limit : Nat) (seen : List α) (current : α)
    (agree : ∀ x ∈ (current :: orbit step limit seen current).dropLast, step x = step' x) :
    orbit step limit seen current = orbit step' limit seen current := by
  induction limit generalizing seen current with
  | zero => rfl
  | succ limit ih =>
    simp only [orbit] at agree ⊢
    have here : step current = step' current := by
      apply agree
      split <;> simp
    rw [← here]
    split
    · rfl
    · next new =>
      rw [if_neg new] at agree
      rw [ih _ _ fun x member => agree x ?_]
      exact List.mem_cons_of_mem _ member

theorem map_orbit {β : Type} [DecidableEq β] {f : α → β} (injective : f.Injective) {step : α → α}
    {step' : β → β} (commutes : ∀ x, f (step x) = step' (f x)) (limit : Nat) (seen : List α) (current : α) :
    (orbit step limit seen current).map f = orbit step' limit (seen.map f) (f current) := by
  induction limit generalizing seen current with
  | zero => rfl
  | succ limit ih =>
    have same : step' (f current) ∈ seen.map f ↔ step current ∈ seen := by
      rw [← commutes, List.mem_map_of_injective injective]
    simp only [orbit, same]
    split
    · simp [commutes]
    · simp [ih, commutes]

end

namespace Context

/-- One pass over a text, as a step from text to text. -/
def passOver (context : Context) (overrides : Entries String EnvOverride) (template text : String) : String :=
  String.ofList (context.pass overrides template.toList text.toList)

variable (context : Context) (overrides : Entries String EnvOverride) {limit : Int} (template : String)

theorem passes_eq_orbit (limit : Nat) : context.passes overrides limit template =
    orbit (context.passOver overrides template) limit [template] template := by
  have commutes (text : List Char) : String.ofList (context.pass overrides template.toList text) =
      context.passOver overrides template (String.ofList text) := by
    rw [passOver, String.toList_ofList]
  rw [passes, map_orbit (fun _ _ same => String.ofList_inj.mp same) commutes]
  simp only [List.map_cons, List.map_nil, String.ofList_toList]

theorem passes?_eq (positive : 1 ≤ limit) : context.passes? overrides limit template =
    .ok (orbit (context.passOver overrides template) limit.toNat [template] template) := by
  simp [passes?, passBound, Int.not_lt.mpr positive, passes_eq_orbit]

theorem exists_orbit (positive : 1 ≤ limit) : ∃ texts early last,
    context.passes? overrides limit template = .ok texts ∧ template :: texts = early ++ [last] ∧
      early.head? = some template ∧ IsOrbit (context.passOver overrides template) limit.toNat early last := by
  have allowed : 0 < limit.toNat := by omega
  obtain ⟨early, last, whole, begins, orbits⟩ :=
    isOrbit_orbit (context.passOver overrides template) allowed template
  exact ⟨_, early, last, passes?_eq context overrides template positive, whole, begins, orbits⟩

/-- The texts that repeated passes yield after the template. Each comes from the one before it by one pass. All but
the last are different from each other, and fewer than allowed are yielded only if the last is one of them. Then
no number of further passes leads out of them. With a larger limit they are the first to be yielded. -/
theorem passes_orbit (positive : 1 ≤ limit) : ∃ texts early last,
    context.passes? overrides limit template = .ok texts ∧ template :: texts = early ++ [last] ∧
      early.head? = some template ∧ IsOrbit (context.passOver overrides template) limit.toNat early last ∧
      (last ∈ early → ∀ text ∈ early, ∀ n, (context.passOver overrides template)^[n] text ∈ early) ∧
      ∀ limit' ≥ limit, ∃ texts', context.passes? overrides limit' template = .ok texts' ∧
        texts = texts'.take limit.toNat := by
  obtain ⟨texts, early, last, yields, whole, begins, orbits⟩ := context.exists_orbit overrides template positive
  refine ⟨texts, early, last, yields, whole, begins, orbits, ?_, ?_⟩
  · exact fun returns text member n => orbits.iterate_mem returns member n
  · intro limit' le
    rw [context.passes?_eq overrides template positive, Except.ok.injEq] at yields
    exact ⟨_, context.passes?_eq overrides template (by omega), yields ▸ orbit_take _ (by omega) _ _⟩

end Context

/-- Settings that refer to each other in a circle of two, into which the first one leads. -/
def circular : Context where
  settings := [[("a", .text "$\x7bconfig:b\x7d"), ("b", .text "$\x7bconfig:c\x7d"), ("c", .text "$\x7bconfig:b\x7d")]]

/-- The third pass comes back to the result of the first one, and all further passes go round the circle. -/
theorem passes_orbit_circular : (1 : Int) ≤ 5 ∧
    circular.passes? [] 5 "$\x7bconfig:a\x7d" =
      .ok ["$\x7bconfig:b\x7d", "$\x7bconfig:c\x7d", "$\x7bconfig:b\x7d"] ∧
    ∀ n, (circular.passOver [] "$\x7bconfig:a\x7d")^[n] "$\x7bconfig:b\x7d" ∈
      ["$\x7bconfig:a\x7d", "$\x7bconfig:b\x7d", "$\x7bconfig:c\x7d"] := by
  have computed : circular.passes [] 5 "$\x7bconfig:a\x7d" =
      ["$\x7bconfig:b\x7d", "$\x7bconfig:c\x7d", "$\x7bconfig:b\x7d"] := by decide +kernel
  have yields : circular.passes? [] 5 "$\x7bconfig:a\x7d" = .ok (circular.passes [] 5 "$\x7bconfig:a\x7d") := rfl
  rw [computed] at yields
  obtain ⟨texts, early, last, own, whole, _, _, stays, _⟩ :=
    circular.passes_orbit [] "$\x7bconfig:a\x7d" (by decide : (1 : Int) ≤ 5)
  cases yields.symm.trans own
  have split : early ++ [last] =
      ["$\x7bconfig:a\x7d", "$\x7bconfig:b\x7d", "$\x7bconfig:c\x7d"] ++ ["$\x7bconfig:b\x7d"] := whole.symm
  obtain ⟨rfl, ends⟩ := List.append_inj' split rfl
  cases ends
  exact ⟨by decide, yields, stays (by decide) _ (by decide)⟩

end LayeredSettings

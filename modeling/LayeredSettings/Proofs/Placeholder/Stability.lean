import LayeredSettings.Proofs.Placeholder.Agreement
import Mathlib.Dynamics.PeriodicPts.Defs

namespace LayeredSettings

namespace IsOrbit

variable {α : Type} {step : α → α} {limit n : Nat} {early : List α} {start last : α}

theorem getElem?_eq (orbits : IsOrbit step limit early last) (begins : early.head? = some start) {i : Nat}
    (within : i ≤ early.length) : (early ++ [last])[i]? = some (step^[i] start) := by
  induction i with
  | zero =>
    rw [← List.head?_eq_getElem?, List.head?_append, begins]
    rfl
  | succ i ih =>
    have before := ih (by omega)
    have next := List.isChain_iff_getElem.mp orbits.steps i (by simp; omega)
    rw [List.getElem?_eq_getElem (by simp; omega), Option.some.injEq] at before ⊢
    rw [next, before, Function.iterate_succ_apply']

theorem last_eq (orbits : IsOrbit step limit early last) (begins : early.head? = some start) :
    last = step^[early.length] start := by
  have ends := orbits.getElem?_eq begins (Nat.le_refl _)
  simpa using ends

theorem getElem?_early (orbits : IsOrbit step limit early last) (begins : early.head? = some start) {i : Nat}
    (within : i < early.length) : early[i]? = some (step^[i] start) := by
  rw [← orbits.getElem?_eq begins within.le, List.getElem?_append_left within]

theorem iterate_injective (orbits : IsOrbit step limit early last) (begins : early.head? = some start) {i j : Nat}
    (within : i < early.length) (within' : j < early.length) (same : step^[i] start = step^[j] start) : i = j := by
  refine (List.getElem?_inj within orbits.distinct).mp ?_
  rw [orbits.getElem?_early begins within, orbits.getElem?_early begins within', same]

theorem exists_iterate (orbits : IsOrbit step limit early last) (begins : early.head? = some start) {x : α}
    (member : x ∈ early) : ∃ i < early.length, x = step^[i] start := by
  obtain ⟨i, within, rfl⟩ := List.getElem_of_mem member
  have place := orbits.getElem?_early begins within
  rw [List.getElem?_eq_getElem within, Option.some.injEq] at place
  exact ⟨i, within, place⟩

/-- A last value that was seen before comes back after no more steps than were made. -/
theorem exists_period (orbits : IsOrbit step limit early last) (begins : early.head? = some start)
    (returns : last ∈ early) : ∃ n, 0 < n ∧ n ≤ limit ∧ Function.IsPeriodicPt step n last := by
  obtain ⟨i, within, before⟩ := orbits.exists_iterate begins returns
  have bounded := orbits.bounded
  refine ⟨early.length - i, by omega, by omega, ?_⟩
  calc step^[early.length - i] last
    _ = step^[early.length - i] (step^[i] start) := by rw [before]
    _ = step^[early.length] start := by rw [← Function.iterate_add_apply, Nat.sub_add_cancel within.le]
    _ = last := (orbits.last_eq begins).symm

/-- Where the start itself comes back within the limit, the steps end with it. -/
theorem last_of_periodic (orbits : IsOrbit step limit early last) (begins : early.head? = some start)
    (positive : 0 < n) (within : n ≤ limit) (periodic : Function.IsPeriodicPt step n start) : last = start := by
  have least := periodic.minimalPeriod_le positive
  have some := periodic.minimalPeriod_pos positive
  have ends := orbits.last_eq begins
  rcases Nat.lt_trichotomy early.length (Function.minimalPeriod step start) with short | same | long
  · -- A value cannot come back before the period is over.
    obtain ⟨i, inside, before⟩ := orbits.exists_iterate begins (orbits.stops (by omega))
    have again := Function.iterate_injOn_Iio_minimalPeriod (Set.mem_Iio.mpr short)
      (Set.mem_Iio.mpr (inside.trans short)) (ends.symm.trans before)
    omega
  · rw [ends, same, Function.iterate_minimalPeriod]
  · -- The early values differ, so they cannot go on after the start has come back.
    have again := orbits.iterate_injective begins long (some.trans long) Function.iterate_minimalPeriod
    omega

end IsOrbit

/-- Text without dollar signs stands for itself, and what follows is read as if it stood alone. -/
theorem pieces_append {front : List Char} (free : '$' ∉ front) (s : List Char) :
    pieces (front ++ s) = front.map .char ++ pieces s := by
  induction front with
  | nil => rfl
  | cons c rest ih =>
    simp only [List.mem_cons, not_or] at free
    have plain (body after : List Char) : ¬ Opens (c :: (rest ++ s)) body after := by
      rintro ⟨_, opens⟩
      exact free.1 (List.cons.inj opens).1.symm
    rw [List.cons_append, pieces_of_not_opens plain, ih free.2]
    rfl

namespace Context

variable (context : Context) (overrides : Entries String EnvOverride)

theorem pass_append (template : List Char) {front : List Char} (free : '$' ∉ front) (s : List Char) :
    context.pass overrides template (front ++ s) = front ++ context.pass overrides template s := by
  have kept : (front.map Piece.char).flatMap (context.fill overrides template) = front := by
    rw [List.flatMap_map]
    simp [fill]
  rw [pass, pieces_append free, List.flatMap_append, kept, pass]

/-- Any number of passes leaves a beginning without dollar signs alone. -/
theorem iterate_passOver_append (template : String) {front : String} (free : '$' ∉ front.toList) (n : Nat)
    (text : String) : (context.passOver overrides template)^[n] (front ++ text) =
      front ++ (context.passOver overrides template)^[n] text := by
  have commutes : Function.Semiconj (front ++ ·) (context.passOver overrides template)
      (context.passOver overrides template) := by
    intro text
    simp [passOver, context.pass_append overrides template.toList free, String.ofList_append]
  exact (commutes.iterate_right n text).symm

variable {context overrides}

/-- Without lists among the overrides it does not matter which template is expanded. -/
theorem passOver_congr (plain : ∀ entry ∈ overrides, ∃ s, entry.2 = .text s) (template template' : String) :
    context.passOver overrides template = context.passOver overrides template' := by
  have same (whole whole' : Bool) (reference : Reference) :
      context.lookup? overrides whole reference = context.lookup? overrides whole' reference := by
    unfold lookup?
    cases reference.source with
    | setting | folder => rfl
    | environment =>
      unfold environmentValue?
      cases found : overrides.get? reference.name with
      | none => rfl
      | some value =>
        obtain ⟨s, rfl⟩ := plain _ (Entries.mem_of_get? found)
        rfl
  funext text
  exact passOver_agree fun placeholder _ => same _ _ placeholder.reference

theorem expandHome_cases (text : String) :
    context.expandHome text = text ∨ ∃ home rest, context.home? = some home ∧ text = "~" ++ rest ∧
      context.expandHome text = home ++ rest := by
  unfold expandHome
  split
  · next rest home begins known =>
    refine .inr ⟨home, String.ofList rest, known, ?_, rfl⟩
    rw [← String.toList_inj, begins]
    simp
  · exact .inl rfl

theorem expandHome_of_head? {text : String} (other : text.toList.head? ≠ some '~') :
    context.expandHome text = text := by
  rcases context.expandHome_cases text with same | ⟨_, _, _, rfl, _⟩
  · exact same
  · exact absurd (by simp) other

/-- The home directory is not itself subject to expansion: it has no dollar sign, and no tilde leads it. -/
def PlainHome (context : Context) : Prop :=
  ∀ home, context.home? = some home → '$' ∉ home.toList ∧ home.toList.head? ≠ some '~'

/-- What home expansion gives is not expanded again. -/
theorem PlainHome.expandHome_steady (plain : context.PlainHome) (text : String) :
    context.expandHome (context.expandHome text) = context.expandHome text := by
  rcases context.expandHome_cases text with same | ⟨home, rest, known, rfl, expanded⟩
  · rw [same, same]
  · have named : home ≠ "" := by simpa using (Option.filter_eq_some_iff.mp known).2
    have chars : home.toList ≠ [] := fun none => named (String.toList_eq_nil_iff.mp none)
    rw [expanded]
    refine expandHome_of_head? ?_
    rw [String.toList_append, List.head?_append_of_ne_nil _ chars]
    exact (plain home known).2

/-- A text that passes lead back to is led back to after home expansion as well. -/
theorem PlainHome.periodic_expandHome (plain : context.PlainHome) {template text : String} {n : Nat}
    (periodic : Function.IsPeriodicPt (context.passOver overrides template) n text) :
    Function.IsPeriodicPt (context.passOver overrides template) n (context.expandHome text) := by
  rcases context.expandHome_cases text with same | ⟨home, rest, known, rfl, expanded⟩
  · rwa [same]
  · have free : '$' ∉ "~".toList := by decide
    -- The tilde takes no part in a pass, so what follows it is led back to by itself.
    have tail := context.iterate_passOver_append overrides template free n rest
    have back : (context.passOver overrides template)^[n] rest = rest :=
      (String.append_right_inj "~").mp (tail.symm.trans periodic)
    have whole := context.iterate_passOver_append overrides template (plain home known).1 n rest
    rw [back] at whole
    rw [expanded]
    exact whole

/-- A template is resolved to the last text that its passes yield, with the home directory put in. -/
theorem resolve_eq {limit : Int} {template : String} {texts early : List String} {last : String}
    (positive : 1 ≤ limit) (nonempty : template ≠ "")
    (yields : context.passes? overrides limit template = .ok texts) (whole : template :: texts = early ++ [last])
    (begins : early.head? = some template) :
    context.resolve overrides limit (some template) = .ok (some (context.expandHome last)) := by
  have own : passBound limit = .ok limit.toNat := by simp [passBound, Int.not_lt.mpr positive]
  simp only [passes?, own, Except.ok.injEq] at yields
  obtain ⟨others, rfl⟩ := List.head?_eq_some_iff.mp begins
  have rest := (List.cons.inj whole).2
  simp only [resolve, own, if_neg nonempty, expand, yields, rest]
  simp

/-- A text that comes back within the limit, and that is not subject to home expansion, is resolved to itself. -/
theorem resolve_of_periodic {limit : Int} {text : String} {n : Nat} (positive : 1 ≤ limit)
    (periodic : Function.IsPeriodicPt (context.passOver overrides text) n text) (moves : 0 < n)
    (within : n ≤ limit.toNat) (steady : context.expandHome text = text) :
    context.resolve overrides limit (some text) = .ok (some text) := by
  by_cases nonempty : text = ""
  · simp [resolve, nonempty]
  · obtain ⟨texts, early, last, yields, whole, begins, orbits⟩ := context.exists_orbit overrides text positive
    rw [resolve_eq positive nonempty yields whole begins, orbits.last_of_periodic begins moves within periodic, steady]

/-- Where the last text that the passes over a template yield had been seen before, what the template is resolved to
is resolved to itself. -/
theorem resolve_idempotent {limit : Int} {template : String} {texts early : List String} {last : String}
    (positive : 1 ≤ limit) (plain : ∀ entry ∈ overrides, ∃ s, entry.2 = .text s) (home : context.PlainHome)
    (yields : context.passes? overrides limit template = .ok texts) (whole : template :: texts = early ++ [last])
    (returns : last ∈ early) : ∃ result, context.resolve overrides limit (some template) = .ok (some result) ∧
      context.resolve overrides limit (some result) = .ok (some result) := by
  by_cases nonempty : template = ""
  · exact ⟨"", by simp [resolve, nonempty], by simp [resolve]⟩
  · obtain ⟨_, _, _, yields', whole', begins, orbits⟩ := context.exists_orbit overrides template positive
    cases yields.symm.trans yields'
    obtain ⟨rfl, ends⟩ := List.append_inj' (whole.symm.trans whole') rfl
    cases ends
    obtain ⟨n, moves, within, periodic⟩ := orbits.exists_period begins returns
    have back := home.periodic_expandHome periodic
    rw [passOver_congr plain template (context.expandHome last)] at back
    exact ⟨_, resolve_eq positive nonempty yields whole begins,
      resolve_of_periodic positive back moves within (home.expandHome_steady last)⟩

end Context

/-- Two settings that refer to each other, and a home directory. -/
def tangled : Context where
  environment := [("HOME", "/home/me")]
  settings := [[("a", .text "$\x7bconfig:b\x7d"), ("b", .text "$\x7bconfig:a\x7d")]]

/-- The passes over a template with a leading tilde go round the two settings, and the text with the home directory
in it is resolved to itself. -/
theorem resolve_idempotent_tangled : tangled.PlainHome ∧
    tangled.passes? [("X", .text "y")] 3 "~/$\x7bconfig:a\x7d" =
      .ok ["~/$\x7bconfig:b\x7d", "~/$\x7bconfig:a\x7d"] ∧
    tangled.resolve [("X", .text "y")] 3 (some "~/$\x7bconfig:a\x7d") = .ok (some "/home/me/$\x7bconfig:a\x7d") ∧
    tangled.resolve [("X", .text "y")] 3 (some "/home/me/$\x7bconfig:a\x7d") =
      .ok (some "/home/me/$\x7bconfig:a\x7d") := by
  have home : tangled.PlainHome := by
    intro home known
    have own : tangled.home? = some "/home/me" := by decide +kernel
    cases known.symm.trans own
    decide +kernel
  have passes : tangled.passes [("X", .text "y")] 3 "~/$\x7bconfig:a\x7d" =
      ["~/$\x7bconfig:b\x7d", "~/$\x7bconfig:a\x7d"] := by decide +kernel
  have yields : tangled.passes? [("X", .text "y")] 3 "~/$\x7bconfig:a\x7d" =
      .ok (tangled.passes [("X", .text "y")] 3 "~/$\x7bconfig:a\x7d") := rfl
  have expanded : tangled.expand [("X", .text "y")] 3 "~/$\x7bconfig:a\x7d" = "/home/me/$\x7bconfig:a\x7d" := by
    decide +kernel
  have resolved : tangled.resolve [("X", .text "y")] 3 (some "~/$\x7bconfig:a\x7d") =
      .ok (some (tangled.expand [("X", .text "y")] 3 "~/$\x7bconfig:a\x7d")) := rfl
  rw [passes] at yields
  rw [expanded] at resolved
  have whole : ["~/$\x7bconfig:a\x7d", "~/$\x7bconfig:b\x7d", "~/$\x7bconfig:a\x7d"] =
      ["~/$\x7bconfig:a\x7d", "~/$\x7bconfig:b\x7d"] ++ ["~/$\x7bconfig:a\x7d"] := rfl
  obtain ⟨result, once, twice⟩ :=
    tangled.resolve_idempotent (by decide : (1 : Int) ≤ 3) (by simp) home yields whole (by decide)
  cases resolved.symm.trans once
  exact ⟨home, yields, once, twice⟩

end LayeredSettings

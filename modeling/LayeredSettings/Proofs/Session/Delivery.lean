import LayeredSettings.Proofs.Session.Loop

namespace LayeredSettings

namespace Machine

/-- The subscriber that the step to come calls, with the signal and what it is told. -/
def call? (m : Machine) : Option (Signal × Event × Nat) :=
  match m.mode, m.stack with
  | .answered _, .notify signal event (handle :: _) :: _ =>
    if m.world.isReleased handle then none else some (signal, event, handle)
  | _, _ => none

/-- The step to come calls a subscriber, or passes it over because it has been released. -/
def Serves (signal : Signal) (event : Event) (handle : Nat) (m : Machine) : Prop :=
  m.call? = some (signal, event, handle) ∨ m.world.isReleased handle = true

variable {m next : Machine} {signal : Signal} {event : Event} {handle : Nat} {handles : List Nat}
  {above below : List Frame}

theorem stack_of_call (calls : m.call? = some (signal, event, handle)) : ∃ v handles rest, m.mode = .answered v ∧
    m.stack = .notify signal event (handle :: handles) :: rest := by
  unfold call? at calls
  split at calls
  · next mode stack =>
    simp only [Option.ite_none_left_eq_some, Option.some.injEq, Prod.mk.injEq] at calls
    obtain ⟨_, rfl, rfl, rfl⟩ := calls
    exact ⟨_, _, _, mode, stack⟩
  · cases calls

/-- A notification gives one subscriber after the other its turn, until a failure breaks it off.
Only a subscriber that has not been released does something. -/
theorem notify_step (step : m.step? = some next) (stack : m.stack = .notify signal event handles :: below) :
    (∃ f, m.mode = .failing f ∧ next = ⟨m.world, .failing f, below⟩) ∨
      (handles = [] ∧ (∃ v, m.mode = .answered v) ∧ next = ⟨m.world, .answered .null, below⟩) ∨
      ∃ v handle rest above, m.mode = .answered v ∧ handles = handle :: rest ∧ next.mode = .answered .null ∧
        next.stack = above ++ .notify signal event rest :: below ∧ (above ≠ [] → m.world.isReleased handle = false) := by
  obtain ⟨w, mode, frames⟩ := m
  simp only at stack
  subst stack
  cases moves step with
  | told => exact .inr (.inl ⟨rfl, ⟨_, rfl⟩, rfl⟩)
  | pass => exact .inr (.inr ⟨_, _, _, [], rfl, rfl, rfl, rfl, fun some => absurd rfl some⟩)
  | call live => exact .inr (.inr ⟨_, _, _, [_], rfl, rfl, rfl, rfl, fun _ => live⟩)
  | @follow _ _ _ _ _ _ _ _ _ i live =>
    exact .inr (.inr ⟨_, _, _, (w.requestUpdate i).2 ++ [.following i], rfl, rfl, rfl, by simp, fun _ => live⟩)
  | dropNotify => exact .inl ⟨_, rfl, rfl⟩

theorem serves_of_turn {v : Value} (mode : m.mode = .answered v)
    (stack : m.stack = .notify signal event (handle :: handles) :: below) : m.Serves signal event handle := by
  cases released : m.world.isReleased handle with
  | true => exact .inr released
  | false => exact .inl (by simp [call?, mode, stack, released])

/-- A subscriber that is still to be served stays so until it is, or until a failure breaks the
notification off. -/
theorem due_subscriber_step (step : m.step? = some next)
    (stack : m.stack = above ++ .notify signal event handles :: below) (due : handle ∈ handles) :
    m.Serves signal event handle ∨ (above = [] ∧ ∃ f, m.mode = .failing f ∧ next = ⟨m.world, .failing f, below⟩) ∨
      ∃ above' handles', next.stack = above' ++ .notify signal event handles' :: below ∧ handle ∈ handles' := by
  cases above with
  | cons top others =>
    obtain ⟨others', shape⟩ := suffix_step step stack (by simp)
    exact .inr (.inr ⟨others', handles, shape, due⟩)
  | nil =>
    rcases notify_step step stack with
      ⟨f, failing, broken⟩ | ⟨none, _⟩ | ⟨_, first, rest, above, mode, rfl, _, shape, _⟩
    · exact .inr (.inl ⟨rfl, f, failing, broken⟩)
    · simp [none] at due
    · rcases List.mem_cons.mp due with rfl | later
      · exact .inl (serves_of_turn mode stack)
      · exact .inr (.inr ⟨above, rest, shape, later⟩)

/-- The subscriber whose turn it is in a notification that stands on `depth` frames, and whether it
is called then. -/
def turnAt? (depth : Nat) (m : Machine) : Option (Nat × Bool) :=
  match m.mode, m.stack with
  | .answered _, .notify _ _ (handle :: _) :: below =>
    if below.length = depth then some (handle, !m.world.isReleased handle) else none
  | _, _ => none

/-- The call to come, if it is one of the notification that stands on `depth` frames. -/
def callAt? (depth : Nat) (m : Machine) : Option (Signal × Event × Nat) :=
  if m.stack.length = depth + 1 then m.call? else none

/-- The turns that a notification has given, the latest first. -/
def turns (depth : Nat) (during : List Machine) : List (Nat × Bool) := during.filterMap (turnAt? depth)

theorem turnAt_of_stack {v : Value} (mode : m.mode = .answered v)
    (stack : m.stack = .notify signal event (handle :: handles) :: below) :
    m.turnAt? below.length = some (handle, !m.world.isReleased handle) := by
  simp [turnAt?, mode, stack]

theorem callAt_of_stack {v : Value} (mode : m.mode = .answered v)
    (stack : m.stack = .notify signal event (handle :: handles) :: below) :
    m.callAt? below.length = if m.world.isReleased handle then none else some (signal, event, handle) := by
  simp [callAt?, call?, mode, stack]

theorem turnAt_eq_some {depth : Nat} {called : Bool} (turn : m.turnAt? depth = some (handle, called)) :
    m.stack.length = depth + 1 ∧ called = !m.world.isReleased handle := by
  unfold turnAt? at turn
  split at turn
  · next stack =>
    obtain ⟨own, turn⟩ := Option.ite_none_right_eq_some.mp turn
    cases turn
    exact ⟨by rw [stack, List.length_cons, own], rfl⟩
  · cases turn

theorem callAt_eq_some {depth : Nat} {call : Signal × Event × Nat} :
    m.callAt? depth = some call ↔ m.stack.length = depth + 1 ∧ m.call? = some call := by
  simp [callAt?]

theorem at_of_deep {depth : Nat} (deep : depth + 1 < m.stack.length) :
    m.turnAt? depth = none ∧ m.callAt? depth = none := by
  refine ⟨?_, if_neg (by omega)⟩
  unfold turnAt?
  split
  · next stack =>
    rw [stack, List.length_cons] at deep
    exact if_neg (by omega)
  · rfl

theorem at_of_failing {f : Failure} (failing : m.mode = .failing f) (depth : Nat) :
    m.turnAt? depth = none ∧ m.callAt? depth = none := by
  simp [turnAt?, callAt?, call?, failing]

theorem at_of_served (stack : m.stack = .notify signal event [] :: below) (depth : Nat) :
    m.turnAt? depth = none ∧ m.callAt? depth = none := by
  simp [turnAt?, callAt?, call?, stack]

/-- No failure has come to a notification that stands on `depth` frames. -/
def Unbroken (depth : Nat) (during : List Machine) : Prop :=
  ∀ passed ∈ during, passed.stack.length = depth + 1 → ∃ v, passed.mode = .answered v

/-- How far a notification has come. It is between two turns; it is at the subscriber that was called
last, or the failure of that one has just come to it; all have had their turns; or that failure has
broken it off. -/
inductive Notified (signal : Signal) (event : Event) (handles : List Nat) (below : List Frame)
    (during : List Machine) (m : Machine) : Prop
  | between {v : Value} {rest : List Nat} :
      m.mode = .answered v → m.stack = .notify signal event rest :: below →
      handles = ((turns below.length during).map Prod.fst).reverse ++ rest → Unbroken below.length during →
      Notified signal event handles below during m
  | inside {above : List Frame} {handle : Nat} {rest : List Nat} :
      m.stack = above ++ .notify signal event rest :: below → above ≠ [] ∨ (∃ f, m.mode = .failing f) →
      (turns below.length during).head? = some (handle, true) →
      handles = ((turns below.length during).map Prod.fst).reverse ++ rest → Unbroken below.length during →
      Notified signal event handles below during m
  | served {v : Value} :
      m.mode = .answered v → m.stack = below → handles = ((turns below.length during).map Prod.fst).reverse →
      Unbroken below.length during → Notified signal event handles below during m
  | broken {f : Failure} {raised : Machine} {handle : Nat} {rest : List Nat} :
      m = ⟨raised.world, .failing f, below⟩ → during.head? = some raised → raised.mode = .failing f →
      raised.stack = .notify signal event rest :: below →
      (turns below.length during).head? = some (handle, true) →
      handles = ((turns below.length during).map Prod.fst).reverse ++ rest →
      Notified signal event handles below during m

theorem Unbroken.cons {depth : Nat} {during : List Machine} (unbroken : Unbroken depth during)
    (now : m.stack.length = depth + 1 → ∃ v, m.mode = .answered v) : Unbroken depth (m :: during) := by
  intro passed member
  rcases List.mem_cons.mp member with rfl | earlier
  · exact now
  · exact unbroken passed earlier

theorem Notified.step {during : List Machine} (notified : Notified signal event handles below during m)
    (deep : below.length < m.stack.length) (step : m.step? = some next) :
    Notified signal event handles below (m :: during) next := by
  have quiet (none : m.turnAt? below.length = none) :
      turns below.length (m :: during) = turns below.length during := List.filterMap_cons_none none
  have onward {rest : List Nat} (stack : m.stack = .notify signal event rest :: below)
      (order : handles = ((turns below.length during).map Prod.fst).reverse ++ rest)
      (unbroken : Unbroken below.length during)
      (failing : ∀ f, m.mode = .failing f → ∃ handle, (turns below.length during).head? = some (handle, true)) :
      Notified signal event handles below (m :: during) next := by
    rcases notify_step step stack with
      ⟨f, mode, rfl⟩ | ⟨rfl, ⟨v, mode⟩, rfl⟩ | ⟨v, handle, rest', above, mode, rfl, answered, shape, live⟩
    · obtain ⟨handle, last⟩ := failing f mode
      have none := quiet (at_of_failing mode _).1
      exact .broken rfl rfl mode stack (none ▸ last) (none ▸ order)
    · rw [List.append_nil] at order
      have none := quiet (at_of_served stack _).1
      exact .served rfl rfl (none ▸ order) (unbroken.cons fun _ => ⟨v, mode⟩)
    · have turn : turns below.length (m :: during) =
          (handle, !m.world.isReleased handle) :: turns below.length during :=
        List.filterMap_cons_some (turnAt_of_stack mode stack)
      have order' : handles = ((turns below.length (m :: during)).map Prod.fst).reverse ++ rest' := by
        simp [turn, order]
      have unbroken' := unbroken.cons fun _ => ⟨v, mode⟩
      by_cases idle : above = []
      · subst idle
        exact .between answered shape order' unbroken'
      · exact .inside shape (.inl idle) (by rw [turn, live idle]; rfl) order' unbroken'
  cases notified with
  | between mode stack order unbroken =>
    refine onward stack order unbroken fun f failing => ?_
    rw [mode] at failing
    cases failing
  | @inside above handle rest stack busy last order unbroken =>
    cases above with
    | nil => exact onward stack order unbroken fun _ _ => ⟨handle, last⟩
    | cons top others =>
      obtain ⟨others', shape⟩ := suffix_step step stack (by simp)
      have deeper : below.length + 1 < m.stack.length := by
        rw [stack]
        simp only [List.length_append, List.length_cons]
        omega
      have none := quiet (at_of_deep deeper).1
      have unbroken' := unbroken.cons (m := m) fun at' => by omega
      by_cases back : others' = []
      · subst back
        cases mode : next.mode with
        | answered v => exact .between mode shape (none ▸ order) unbroken'
        | failing f => exact .inside shape (.inr ⟨f, mode⟩) (none ▸ last) (none ▸ order) unbroken'
      · exact .inside shape (.inl back) (none ▸ last) (none ▸ order) unbroken'
  | served _ stack => exact absurd deep (by simp [stack])
  | broken same => exact absurd deep (by simp [same])

namespace Above

variable {first : Machine} {during : List Machine} {v : Value}

theorem notified (path : Above below.length first during m) (mode : first.mode = .answered v)
    (stack : first.stack = .notify signal event handles :: below) : Notified signal event handles below during m := by
  induction path with
  | start => exact .between mode stack rfl fun _ member => nomatch member
  | step _ deep step ih => exact ih.step deep step

/-- What a notification calls are the subscribers that have not been released at their turns. -/
theorem calls_eq (path : Above below.length first during m) (mode : first.mode = .answered v)
    (stack : first.stack = .notify signal event handles :: below) :
    during.filterMap (callAt? below.length) =
      ((turns below.length during).filter Prod.snd).map fun turn => (signal, event, turn.1) := by
  induction path with
  | start => rfl
  | @step past m next path deep _ ih =>
    have silent (none : m.turnAt? below.length = none ∧ m.callAt? below.length = none) :
        (m :: past).filterMap (callAt? below.length) =
          ((turns below.length (m :: past)).filter Prod.snd).map fun turn => (signal, event, turn.1) := by
      rw [turns, List.filterMap_cons_none none.1, List.filterMap_cons_none none.2]
      exact ih
    have onward {rest : List Nat} (stack : m.stack = .notify signal event rest :: below) :
        (m :: past).filterMap (callAt? below.length) =
          ((turns below.length (m :: past)).filter Prod.snd).map fun turn => (signal, event, turn.1) := by
      cases mode : m.mode with
      | failing f => exact silent (at_of_failing mode _)
      | answered v =>
        cases rest with
        | nil => exact silent (at_of_served stack _)
        | cons handle rest =>
          rw [turns, List.filterMap_cons_some (turnAt_of_stack mode stack), List.filterMap_cons,
            callAt_of_stack mode stack, ih]
          cases m.world.isReleased handle <;> rfl
    cases path.notified mode stack with
    | between _ stack => exact onward stack
    | @inside above _ _ stack =>
      cases above with
      | nil => exact onward stack
      | cons top others =>
        refine silent (at_of_deep ?_)
        rw [stack]
        simp only [List.length_append, List.length_cons]
        omega
    | served _ stack => exact absurd deep (by simp [stack])
    | broken same => exact absurd deep (by simp [same])

/-- What has become of a notification: it is still to serve the rest of its subscribers, it has
been broken off, or it has served them all. -/
theorem delivers (path : Above below.length first during m) (mode : first.mode = .answered v)
    (stack : first.stack = .notify signal event handles :: below) :
    (∃ above rest, m.stack = above ++ .notify signal event rest :: below) ∨
    m.stack = below ∧ ((∃ f, m.mode = .failing f) ∨ (∃ v, m.mode = .answered v) ∧
      ∀ handle ∈ handles, ∃ passed ∈ during, passed.stack.length = below.length + 1 ∧
        passed.Serves signal event handle) := by
  cases path.notified mode stack with
  | between _ shape => exact .inl ⟨[], _, shape⟩
  | inside shape => exact .inl ⟨_, _, shape⟩
  | broken same => exact .inr ⟨by rw [same], .inl ⟨_, by rw [same]⟩⟩
  | served answered shape order =>
    refine .inr ⟨shape, .inr ⟨⟨_, answered⟩, fun handle member => ?_⟩⟩
    rw [order, List.mem_reverse] at member
    obtain ⟨⟨handle, called⟩, turn, rfl⟩ := List.mem_map.mp member
    cases called with
    | true =>
      have call : (signal, event, handle) ∈ during.filterMap (callAt? below.length) := by
        rw [path.calls_eq mode stack]
        exact List.mem_map.mpr ⟨_, List.mem_filter.mpr ⟨turn, rfl⟩, rfl⟩
      obtain ⟨passed, inside, calls⟩ := List.mem_filterMap.mp call
      obtain ⟨length, calls⟩ := callAt_eq_some.mp calls
      exact ⟨passed, inside, length, .inl calls⟩
    | false =>
      obtain ⟨passed, inside, own⟩ := List.mem_filterMap.mp turn
      obtain ⟨length, released⟩ := turnAt_eq_some own
      exact ⟨passed, inside, length, .inr (by simpa using released)⟩

end Above

end Machine

end LayeredSettings

import LayeredSettings.Proofs.Session.Calm
import LayeredSettings.Proofs.Session.Delivery

namespace LayeredSettings

/-- The subscribers to the changes of a live record that a frame is still to notify. -/
def Frame.due (index : Nat) : Frame → List Nat
  | .notify (.changes i) _ handles => if i = index then handles else []
  | _ => []

theorem Frame.due_of_not_tells {index : Nat} {frame : Frame} (silent : frame.tellsChange index = false) :
    frame.due index = [] := by
  cases frame with
  | notify signal event handles =>
    cases signal with
    | changes i =>
      simp only [tellsChange, decide_eq_false_iff_not] at silent
      simp only [due, if_neg silent]
    | plain | settings | failures => rfl
  | actions | attempting | updating | following | making | leaving | releasing | ending => rfl

theorem Frame.due_of_silent (index : Nat) {frame : Frame} (silent : frame.tellsRecord = false) :
    frame.due index = [] := by
  apply due_of_not_tells
  cases frame with
  | notify signal => cases signal <;> first | rfl | cases silent
  | actions | attempting | updating | following | making | leaving | releasing | ending => rfl

theorem World.due_notification (w : World) {signal : Signal} (event : Event) (index : Nat)
    (other : signal ≠ .changes index) : (w.notification signal event).flatMap (Frame.due index) = [] := by
  refine w.flatMap_notification event fun handles => ?_
  cases signal with
  | changes i =>
    have differs : i ≠ index := by rintro rfl; exact other rfl
    simp only [Frame.due, if_neg differs]
  | plain | settings | failures => rfl

namespace Machine

def due (index : Nat) (m : Machine) : List Nat := m.stack.flatMap (Frame.due index)

/-- The call that tells a subscriber of a change of a live record, by the number of records
published and the subscription. -/
def delivery? (index : Nat) (m : Machine) : Option (Nat × Nat) :=
  match m.call? with
  | some (.changes i, _, handle) => if i = index then some ((m.world.live index).published, handle) else none
  | _ => none

variable {m next : Machine} {index : Nat}

theorem due_of_delivery {delivery : Nat × Nat} (told : m.delivery? index = some delivery) :
    delivery.1 = (m.world.live index).published ∧ ∃ rest, m.due index = delivery.2 :: rest := by
  obtain ⟨w, mode, stack⟩ := m
  unfold delivery? call? at told
  cases mode with
  | failing f => simp at told
  | answered v =>
    cases stack with
    | nil => simp at told
    | cons frame rest =>
      cases frame with
      | notify signal event handles =>
        cases handles with
        | nil => simp at told
        | cons handle handles =>
          cases released : w.isReleased handle with
          | true => simp [released] at told
          | false =>
            cases signal with
            | changes i =>
              simp only [released, Bool.false_eq_true, if_false, Option.ite_none_right_eq_some,
                Option.some.injEq] at told
              obtain ⟨rfl, rfl⟩ := told
              exact ⟨rfl, handles ++ rest.flatMap (Frame.due i), by simp [due, Frame.due]⟩
            | plain | settings | failures => simp [released] at told
      | actions | attempting | updating | following | making | leaving | releasing | ending => simp at told

theorem Sound.published_step (sound : m.Sound) (step : m.step? = some next) (index : Nat) :
    (next.world.live index).published = (m.world.live index).published ∨
      m.reads index = true ∧ (∃ r, m.world.reading = .ok r) ∧
        (next.world.live index).published = (m.world.live index).published + 1 := by
  cases live_step sound step index with
  | kept _ _ same | closed _ _ same | asked _ _ same | reported _ _ _ same | ended _ _ same =>
    left
    simp [same, Live.asked]
  | read reading ok same => exact .inr ⟨reading, ⟨_, ok⟩, by simp [same, Live.read]⟩
  | made new same =>
    left
    rw [same, World.live_of_le (Nat.le_of_eq new)]
    rfl

/-- Nothing but what a loop itself notifies is due while it waits. -/
theorem Sound.due_below {w : World} {mode : Mode} {queued : Bool} {rest : List Frame}
    (sound : Sound ⟨w, mode, .updating index queued :: rest⟩) : rest.flatMap (Frame.due index) = [] := by
  rw [List.flatMap_eq_nil_iff]
  intro frame member
  exact Frame.due_of_not_tells (sound.silent_below [] rfl member)

/-- What a step does to the subscribers to be told: it publishes a record, tells the first of
them, or may leave some out. -/
theorem Sound.due_step (sound : m.Sound) (step : m.step? = some next) (index : Nat) :
    (m.delivery? index = none ∧ (m.world.live index).published < (next.world.live index).published ∧
      (next.due index).Pairwise (· < ·)) ∨
    (next.world.live index).published = (m.world.live index).published ∧
      ((∃ handle, m.delivery? index = some ((m.world.live index).published, handle) ∧
        m.due index = handle :: next.due index) ∨
      m.delivery? index = none ∧ (next.due index).Sublist (m.due index)) := by
  have same (other : m.reads index = true → ∃ f, m.world.reading = .error f) :
      (next.world.live index).published = (m.world.live index).published := by
    rcases sound.published_step step index with same | ⟨reading, ⟨r, ok⟩, _⟩
    · exact same
    · obtain ⟨f, failed⟩ := other reading
      rw [ok] at failed
      cases failed
  cases moves step with
  | @read w v i queued rest r log due opened own =>
    by_cases here : i = index
    · subst here
      have live : ((w.setLive i ((w.live i).read r)).withLog log).live i = (w.live i).read r :=
        World.live_setLive_self (World.lt_of_pending due) _
      refine .inl ⟨rfl, ?_, ?_⟩
      · rw [live]
        exact Nat.lt_succ_self _
      · simp only [Machine.due, List.flatMap_append, List.flatMap_cons, sound.due_below, List.append_nil, Frame.due]
        simp only [World.notification]
        split
        · exact .nil
        · simpa [Frame.due] using sound.tables.ordered (.changes i)
    · refine .inr ⟨same (by simp [reads, atLoop, Frame.isLoop, here]), .inr ⟨rfl, ?_⟩⟩
      simp [Machine.due, World.due_notification, here, Frame.due]
  | @pass w v signal event handle handles rest deaf other =>
    refine .inr ⟨same (by simp [reads, atLoop, Frame.isLoop]), .inr ⟨?_, ?_⟩⟩
    · cases signal with
      | changes i =>
        cases released : w.isReleased handle with
        | true => simp [delivery?, call?, released]
        | false =>
          obtain ⟨_, listener, found⟩ := (sound.fits _ (List.mem_cons_self ..)).2.2 handle (List.mem_cons_self ..)
          cases listener with
          | handler => exact absurd found (other _ _ _ _ _ released)
          | live => cases (sound.tables.watching found).1
      | plain | settings | failures => cases released : w.isReleased handle <;> simp [delivery?, call?, released]
    · cases signal with
      | changes i =>
        simp only [Machine.due, List.flatMap_cons, Frame.due]
        split
        · exact (List.sublist_cons_self ..).append_right _
        · exact .refl _
      | plain | settings | failures => exact .refl _
  | @call w v signal event handle handles rest released source name sections calls live found =>
    refine .inr ⟨same (by simp [reads, atLoop, Frame.isLoop]), ?_⟩
    cases signal with
    | changes i =>
      by_cases here : i = index
      · subst here
        exact .inl ⟨handle, by simp [delivery?, call?, live], by simp [Machine.due, Frame.due]⟩
      · exact .inr ⟨by simp [delivery?, call?, live, here], by simp [Machine.due, Frame.due, here]⟩
    | plain | settings | failures =>
      exact .inr ⟨by simp [delivery?, call?, live], by simp [Machine.due, Frame.due]⟩
  | @follow w v signal keys handle handles rest released source i live found =>
    refine .inr ⟨same (by simp [reads, atLoop, Frame.isLoop]), .inr ?_⟩
    obtain ⟨_, _, there⟩ := (sound.fits _ (List.mem_cons_self ..)).2.2 handle (List.mem_cons_self ..)
    cases found.symm.trans there
    obtain ⟨rfl, _⟩ := sound.tables.watching found
    refine ⟨by simp [delivery?, call?, live], ?_⟩
    have none := w.flatMap_requestUpdate i (f := Frame.due index) rfl
    simp [Machine.due, Frame.due, none]
  | act _ deed =>
    refine .inr ⟨same (by simp [reads, atLoop, Frame.isLoop]), .inr ⟨rfl, ?_⟩⟩
    have none := deed.flatMap_frames fun _ => Frame.due_of_silent index
    simp [Machine.due, Frame.due, none]
  | @report w v i rest f log due opened own told =>
    refine .inr ⟨same fun _ => ⟨f, own⟩, .inr ⟨rfl, ?_⟩⟩
    simp [Machine.due, World.due_notification, Frame.due]
  | @refuse w v i queued rest f log due opened own =>
    exact .inr ⟨same fun _ => ⟨f, own⟩, .inr ⟨rfl, by simp [Machine.due, Frame.due]⟩⟩
  | @finish w v i queued rest idle =>
    refine .inr ⟨same fun reading => ?_, .inr ⟨rfl, by simp [Machine.due, Frame.due]⟩⟩
    obtain ⟨rfl, due, opened⟩ := reads_loop.mp reading
    rw [idle due] at opened
    cases opened
  | reportFollowed =>
    refine .inr ⟨same (by simp [reads]), .inr ⟨rfl, ?_⟩⟩
    simp [Machine.due, World.due_notification, Frame.due]
  | _ =>
    refine .inr ⟨same (by simp [reads, atLoop, Frame.isLoop]), .inr ⟨rfl, ?_⟩⟩
    simp [Machine.due, Frame.due]

end Machine

namespace Course

open Machine

variable {start : World} {past : List Machine} {m : Machine}

/-- The calls made so far came in order, and those still due come after them. -/
theorem deliveries (course : Course start past m) (fresh : start.Fresh) (index : Nat) :
    (past.filterMap (delivery? index)).Pairwise (fun later earlier => Prod.Lex (· < ·) (· < ·) earlier later) ∧
      (m.due index).Pairwise (· < ·) ∧
      ∀ delivery ∈ past.filterMap (delivery? index), delivery.1 < (m.world.live index).published ∨
        delivery.1 = (m.world.live index).published ∧ ∀ handle ∈ m.due index, delivery.2 < handle := by
  induction course with
  | start action => exact ⟨.nil, .nil, by simp⟩
  | @act past m action course ended ih =>
    obtain ⟨ordered, _, before⟩ := ih
    have idle : m.delivery? index = none := by
      simp only [delivery?, call?, ended]
      split <;> simp_all
    rw [List.filterMap_cons_none idle]
    refine ⟨ordered, .nil, fun delivery member => ?_⟩
    exact (before delivery member).imp_right fun same => ⟨same.1, by simp [World.doing, Machine.due, Frame.due]⟩
  | @step past m next course step ih =>
    obtain ⟨ordered, sorted, before⟩ := ih
    rcases (course.sound fresh).due_step step index with
      ⟨silent, more, sorted'⟩ | ⟨same, ⟨handle, told, due⟩ | ⟨silent, fewer⟩⟩
    · rw [List.filterMap_cons_none silent]
      refine ⟨ordered, sorted', fun delivery member => .inl ?_⟩
      have := before delivery member
      omega
    · rw [List.filterMap_cons_some told]
      rw [due] at sorted before
      obtain ⟨first, sorted'⟩ := List.pairwise_cons.mp sorted
      refine ⟨List.pairwise_cons.mpr ⟨fun delivery member => ?_, ordered⟩, sorted', fun delivery member => ?_⟩
      · rw [Prod.lex_def]
        exact (before delivery member).imp_right fun own => ⟨own.1, own.2 handle (List.mem_cons_self ..)⟩
      · rw [same]
        rcases List.mem_cons.mp member with rfl | earlier
        · exact .inr ⟨rfl, first⟩
        · exact (before delivery earlier).imp_right fun own =>
            ⟨own.1, fun other later => own.2 other (List.mem_cons_of_mem _ later)⟩
    · rw [List.filterMap_cons_none silent]
      refine ⟨ordered, sorted.sublist fewer, fun delivery member => ?_⟩
      rw [same]
      exact (before delivery member).imp_right fun own => ⟨own.1, fun other later => own.2 other (fewer.subset later)⟩

theorem deliveries_ordered (course : Course start past m) (fresh : start.Fresh) (index : Nat) :
    ((m :: past).reverse.filterMap (delivery? index)).Pairwise (Prod.Lex (· < ·) (· < ·)) := by
  obtain ⟨ordered, _, before⟩ := course.deliveries fresh index
  rw [List.filterMap_reverse, List.pairwise_reverse]
  cases told : m.delivery? index with
  | none => rwa [List.filterMap_cons_none told]
  | some delivery =>
    rw [List.filterMap_cons_some told, List.pairwise_cons]
    obtain ⟨same, rest, due⟩ := due_of_delivery told
    refine ⟨fun earlier member => ?_, ordered⟩
    rw [Prod.lex_def, same]
    exact (before earlier member).imp_right fun own => ⟨own.1, own.2 delivery.2 (by simp [due])⟩

end Course

namespace Machine

variable {m next : Machine} {index : Nat}

/-- A call tells the record in force, and no other one is under way. -/
theorem Sound.call_alone (sound : m.Sound) {event : Event} {handle : Nat}
    (calls : m.call? = some (.changes index, event, handle)) :
    event = .record (m.world.live index).record ∧ ∀ frame ∈ m.stack.tail, frame.tellsChange index = false := by
  obtain ⟨_, handles, rest, _, stack⟩ := stack_of_call calls
  have seated := sound.seated
  rw [stack] at seated
  obtain ⟨⟨below, rfl⟩, _⟩ := seated
  have fits : Frame.Fits m.world (.notify (.changes index) event (handle :: handles)) :=
    sound.fits _ (by rw [stack]; exact List.mem_cons_self ..)
  refine ⟨fits.1 index rfl, fun frame member => ?_⟩
  rw [stack, List.tail_cons] at member
  rcases List.mem_cons.mp member with rfl | under
  · rfl
  · exact sound.silent_below [_] (by rw [stack]; rfl) under

/-- The readings of an update so far, and one still to come if it has been asked for, are one
more than the phases in which a request was made. -/
theorem Above.reads_balance {first : Machine} {during : List Machine} {depth : Nat}
    (path : Above depth first during m) (start : first.Sound) (begun : first.reads index = true)
    (bound : index < first.world.lives.length)
    (calm : ∀ passed ∈ during, passed.raises (Signal.isOf index) = false)
    (opened : (m.world.live index).closed = false) :
    m.Spares index ∧ index < m.world.lives.length ∧ ∃ phase phases,
      during.splitOnP (atLoop index) = phase :: phases ∧
      (m.world.live index).pending = (during.isEmpty || phase.any (asks index)) ∧
      during.countP (reads index) + (if (m.world.live index).pending then 1 else 0) =
        1 + (phase :: phases).countP (·.any (asks index)) := by
  have due : first.atLoop index = true ∧ (first.world.live index).pending = true ∧ ∃ v, first.mode = .answered v := by
    unfold reads at begun
    cases mode : first.mode with
    | failing f => simp [mode] at begun
    | answered v =>
      simp only [mode, Bool.and_eq_true] at begun
      exact ⟨begun.1.1, begun.1.2, v, rfl⟩
  induction path with
  | start =>
    obtain ⟨_, due, v, mode⟩ := due
    exact ⟨fun f failing => by simp [mode] at failing, bound, [], [], rfl, by simp [due], by simp [due]⟩
  | @step past m next path deep step ih =>
    have here := path.sound start
    have before := here.open_before step opened
    obtain ⟨spares, inside, phase, phases, split, pending, balance⟩ :=
      ih (fun passed member => calm passed (List.mem_cons_of_mem _ member)) before
    refine ⟨here.spares_step step spares (calm m (List.mem_cons_self ..)),
      Nat.lt_of_lt_of_le inside (length_step step), ?_⟩
    cases loop : m.atLoop index with
    | true =>
      -- a turn of the loop: it reads just if a request is pending, and a new phase begins
      have reading : m.reads index = (m.world.live index).pending := by
        unfold reads
        cases mode : m.mode with
        | answered v => simp [loop, before]
        | failing f =>
          obtain ⟨top, rest, stack⟩ : ∃ top rest, m.stack = top :: rest := by
            cases shape : m.stack with
            | nil => simp [shape] at deep
            | cons top rest => exact ⟨top, rest, rfl⟩
          have spared := spares f mode top (by simp [stack])
          simp only [atLoop, stack] at loop
          cases top <;> simp_all [Frame.isLoop, Frame.carries]
      refine ⟨[], phase :: phases, by simp [List.splitOnP_cons_eq_if_modifyHead, loop, split], ?_, ?_⟩
      · simp [here.pending_turn step inside loop]
      · rw [here.pending_turn step inside loop, List.countP_cons, reading]
        simpa using balance
    | false =>
      have some : past.isEmpty = false := by
        cases path with
        | start => rw [due.1] at loop; cases loop
        | step => rfl
      refine ⟨m :: phase, phases, by simp [List.splitOnP_cons_eq_if_modifyHead, loop, split], ?_, ?_⟩
      · rw [here.pending_step step inside loop, pending, some, List.any_cons, Bool.or_comm]
        rfl
      · rw [pending, some] at balance
        rw [here.pending_step step inside loop, pending, some, List.countP_cons, reads_eq_false loop]
        by_cases earlier : phase.any (asks index) = true
        · simpa [earlier, List.countP_cons] using balance
        · simp only [Bool.not_eq_true] at earlier
          simp only [earlier, List.countP_cons, Bool.or_self, Bool.false_eq_true, if_false] at balance
          simp only [earlier, List.countP_cons, List.any_cons, Bool.false_or, Bool.or_false]
          simp only [Bool.false_eq_true, if_false]
          omega

end Machine

/-- Notifications of a live record do not interleave and tell the record in force. Each call
tells the record in force while no other is under way, and all calls for one record
come before those for the next, in the order of subscription. The readings of an update
whose handlers do not fail and do not close the record are one more than the phases, from
one turn of the loop to the next, in which a request was made. -/
theorem Course.notification {start : World} {past : List Machine} {m : Machine} (course : Course start past m)
    (fresh : start.Fresh) (index : Nat) :
    (∀ event handle, m.call? = some (.changes index, event, handle) →
      event = .record (m.world.live index).record ∧ ∀ frame ∈ m.stack.tail, frame.tellsChange index = false) ∧
    ((m :: past).reverse.filterMap (Machine.delivery? index)).Pairwise (Prod.Lex (· < ·) (· < ·)) ∧
    ∀ below during last, m.stack = .updating index false :: below →
      Machine.Above below.length m during last → last.stack.length ≤ below.length →
      (∀ passed ∈ during, passed.raises (Signal.isOf index) = false) → (last.world.live index).closed = false →
      during.countP (Machine.reads index) =
        1 + (during.splitOnP (Machine.atLoop index)).countP (·.any (Machine.asks index)) := by
  have sound := course.sound fresh
  refine ⟨fun event handle calls => sound.call_alone calls, course.deliveries_ordered fresh index, ?_⟩
  intro below during last stack path ended calm opened
  obtain ⟨_, _, phase, phases, split, _, balance⟩ :=
    path.reads_balance sound (course.reads_of_begun fresh stack) (sound.lt_of_loop [] stack) calm opened
  have idle : (last.world.live index).pending = false := by
    have here := path.sound sound
    obtain ⟨others, shape⟩ := path.suffix [_] stack (Nat.le_refl _)
    have popped : others = [] := by
      rw [shape, List.length_append] at ended
      exact List.length_eq_zero_iff.mp (by omega)
    have once := sound.loops index
    have none := here.loops index
    rw [stack] at once
    rw [shape, popped, List.nil_append] at none
    simp only [List.countP_cons, Frame.isLoop, decide_true, if_true] at once
    cases pending : (last.world.live index).pending with
    | false => rfl
    | true =>
      rw [here.tables.asked pending] at none
      simp only [if_true] at none
      split at once <;> omega
  rw [split, ← balance, idle]
  rfl

/-- Whether the update of a live record has just begun. -/
def Machine.begins (index : Nat) (m : Machine) : Bool :=
  match m.stack with
  | .updating i false :: _ => i = index
  | _ => false

theorem Machine.begins_iff {m : Machine} {index : Nat} :
    m.begins index = true ↔ ∃ below, m.stack = .updating index false :: below := by
  unfold begins
  constructor
  · intro begun
    split at begun
    · next i below stack =>
      rw [← of_decide_eq_true begun]
      exact ⟨below, stack⟩
    · cases begun
  · rintro ⟨below, stack⟩
    simp [stack]

/-- A handler that asks twice in one phase has the record read once more. -/
theorem notification_coalesced : ∃ past m below during last, Course {} past m ∧
    m.stack = .updating 0 false :: below ∧ Machine.Above below.length m during last ∧
    during.countP (Machine.asks 0) = 2 ∧ during.countP (Machine.reads 0) = 2 ∧
    during.countP (Machine.reads 0) =
      1 + (during.splitOnP (Machine.atLoop 0)).countP (·.any (Machine.asks 0)) := by
  have ended : (askingSession []).2.stack.isEmpty = true := by decide +kernel
  have course := course_askingChange ended 2
  have begun : (askingChange [] 2).2.begins 0 = true := by decide +kernel
  obtain ⟨below, stack⟩ := Machine.begins_iff.mp begun
  have depth : below.length = 3 := by
    have length : (askingChange [] 2).2.stack.length = 4 := by decide +kernel
    simpa [stack] using length
  have path := (@Machine.Above.start 3 (askingChange [] 2).2).back 40
  rw [← depth] at path
  have count := (course.notification World.fresh_empty 0).2.2 below _ _ stack path
    (by rw [depth]; decide +kernel) (by rw [depth]; decide +kernel) (by rw [depth]; decide +kernel)
  refine ⟨_, _, below, _, _, course, stack, path, ?_, ?_, count⟩ <;> rw [depth] <;> decide +kernel

end LayeredSettings

import LayeredSettings.Proofs.Session.Parting

namespace LayeredSettings

/-- A notification comes back, whatever the subscribers do to subscriptions and signals. Those
subscribed when it began have their turns in the order of subscription, one turn at most
each and no one else, and what it calls itself is whoever has not been released at its turn,
with the event. It ends with an answer if no failure has come to it, and then all have had
their turns; otherwise it ends with the failure of the one called last, and the others have no
turns. A closed signal calls no one. -/
theorem Course.subscribers_called {start : World} {past : List Machine} {m : Machine} (course : Course start past m)
    (fresh : start.Fresh) {signal : Signal} {event : Event} {below : List Frame} {v : Value}
    (mode : m.mode = .answered v) (stack : m.stack = m.world.notification signal event ++ below) :
    ∃ during last turns rest, Machine.Above below.length m during last ∧ last.stack = below ∧
      turns = (Machine.turns below.length during).reverse ∧
      (m.world.registry signal).handles = turns.map Prod.fst ++ rest ∧ (m.world.registry signal).handles.Nodup ∧
      (∀ passed ∈ during, ∀ handle called, passed.turnAt? below.length = some (handle, called) →
        called = !passed.world.isReleased handle) ∧
      (during.filterMap (Machine.callAt? below.length)).reverse =
        (turns.filter Prod.snd).map (fun turn => (signal, event, turn.1)) ∧
      ((∃ v, last.mode = .answered v) ∧ rest = [] ∧ Machine.Unbroken below.length during ∨
        ∃ f raised handle, raised ∈ during ∧ raised.mode = .failing f ∧
          raised.stack = .notify signal event rest :: below ∧ turns.getLast? = some (handle, true) ∧
          last = ⟨raised.world, .failing f, below⟩) ∧
      ((m.world.registry signal).closed = true → during = [] ∧ last = m) := by
  have sound := course.sound fresh
  have apart : (m.world.registry signal).handles.Nodup := (sound.tables.ordered signal).imp Nat.ne_of_lt
  cases opened : (m.world.registry signal).closed with
  | true =>
    obtain ⟨_, shut, _⟩ := course.exact_tables fresh
    have none : m.stack = below := by simpa [World.notification, opened] using stack
    refine ⟨[], m, [], [], .start, none, rfl, ?_, apart, by simp, rfl, .inl ⟨⟨v, mode⟩, rfl, ?_⟩, fun _ => ⟨rfl, rfl⟩⟩
    · exact shut signal opened
    · simp [Machine.Unbroken]
  | false =>
    rw [World.notification_of_open opened] at stack
    obtain ⟨during, last, path, ended⟩ := Machine.Above.exists_back below.length m
    have calls := path.calls_eq mode stack
    have called (passed : Machine) (_ : passed ∈ during) (handle : Nat) (called : Bool)
        (turn : passed.turnAt? below.length = some (handle, called)) : called = !passed.world.isReleased handle :=
      (Machine.turnAt_eq_some turn).2
    have still (above : List Frame) {rest : List Nat}
        (stack : last.stack = above ++ .notify signal event rest :: below) : False := by
      rw [stack] at ended
      simp only [List.length_append, List.length_cons] at ended
      omega
    refine ⟨during, last, (Machine.turns below.length during).reverse, ?_⟩
    cases path.notified mode stack with
    | between _ stack => exact (still [] stack).elim
    | inside stack => exact (still _ stack).elim
    | served answered popped order unbroken =>
      refine ⟨[], path, popped, rfl, by simpa using order, apart, called, ?_, .inl ⟨⟨_, answered⟩, rfl, unbroken⟩,
        by simp⟩
      rw [calls, List.filter_reverse, List.map_reverse]
    | @broken f raised handle rest same last failing stack called' order =>
      refine ⟨rest, path, by rw [same], rfl, by simpa using order, apart, called, ?_, .inr ?_, by simp⟩
      · rw [calls, List.filter_reverse, List.map_reverse]
      · exact ⟨f, raised, handle, List.mem_of_head? last, failing, stack, by rw [List.getLast?_reverse, called'], same⟩

/-- Four subscribers. The first one releases the second one and subscribes another, and the third
one fails. -/
def firingSession : List Machine × Machine :=
  (({} : World).doing (.subscribe "a" [[.release "b", .subscribe "e" []]])).play 60 []
    [.subscribe "b" [], .subscribe "c" [[.fail .nullInPath]], .subscribe "d" []]

/-- The beginning of a notification of the four. -/
def firing : Machine :=
  ⟨firingSession.2.world, .answered .null,
    firingSession.2.world.notification .plain (.value .null) ++ [.actions []]⟩

/-- The first and the third one are called, and the failure of the third one keeps the fourth one
from its turn. -/
theorem subscribers_called_failing : ∃ past during last, Course {} past firing ∧
    Machine.Above 1 firing during last ∧ (firing.world.registry .plain).handles = [0, 1, 2, 3] ∧
    (Machine.turns 1 during).reverse = [(0, true), (1, false), (2, true)] ∧
    (during.filterMap (Machine.callAt? 1)).reverse.map (fun call => call.2.2) = [0, 2] ∧
    ∃ f, last.mode = .failing f := by
  have ended : firingSession.2.stack.isEmpty = true := by decide +kernel
  have begun := ((Course.start _).play 60 _ : Course {} firingSession.1 firingSession.2).act (.fire .null)
    (List.isEmpty_iff.mp ended)
  have course : Course {} _ firing := begun.step rfl
  have told : firing.stack = firing.world.notification .plain (.value .null) ++ [.actions []] := rfl
  obtain ⟨during, last, turns, rest, path, popped, given, order, _, _, calls, outcome, _⟩ :=
    course.subscribers_called World.fresh_empty rfl told
  replace path : Machine.Above 1 firing during last := path
  have now : (firing.world.registry .plain).handles = [0, 1, 2, 3] ∧ (firing.back 1 60 []).2.stack.length ≤ 1 ∧
      (Machine.turns 1 (firing.back 1 60 []).1).reverse = [(0, true), (1, false), (2, true)] := by
    decide +kernel
  obtain ⟨four, back, three⟩ := now
  obtain ⟨-, same⟩ := path.unique (by simp [popped]) (Machine.Above.start.back 60) back
  rw [← same] at three
  have own : turns = [(0, true), (1, false), (2, true)] := given.trans three
  refine ⟨_, during, last, course, path, four, three, ?_, ?_⟩
  · rw [List.length_singleton] at calls
    rw [calls, own]
    rfl
  · rcases outcome with ⟨_, none, _⟩ | ⟨f, _, _, _, _, _, _, broken⟩
    · rw [own, none, four] at order
      cases order
    · exact ⟨f, by rw [broken]⟩

end LayeredSettings

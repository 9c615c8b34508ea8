import LayeredSettings.Proofs.Session.FailedReading

namespace LayeredSettings

namespace Machine

/-- The failure that leaves a handler of a live record while the record is being updated because
of a change of the settings. -/
def interrupts? (index : Nat) (m : Machine) : Option Failure :=
  match m.mode, m.stack with
  | .failing f, .actions _ :: .notify signal _ _ :: .updating _ _ :: .following _ :: _ =>
    if signal.isOf index then some f else none
  | _, _ => none

/-- A failure is that of a reading of a live record, which has refused its filter pattern; the
record in force is still the one before that reading. -/
structure Refuses (index : Nat) (f : Failure) (reader next : Machine) : Prop where
  reads : reader.reads index = true
  failed : reader.world.reading = .error f
  pattern : ∃ raw fault position,
    reader.world.settings.textOf (Flat.overrideKey "filterCompilerArgs") = some raw ∧
      checkPattern raw = .error (.invalid fault position) ∧ f = .badPattern raw fault position
  record : (next.world.live index).record = (reader.world.live index).record
  published : (next.world.live index).published = (reader.world.live index).published

variable {m next : Machine} {index : Nat} {f : Failure}

theorem interrupts_iff : m.interrupts? index = some f ↔ ∃ actions signal event handles i queued j below,
    m.mode = .failing f ∧ signal.isOf index = true ∧
      m.stack = .actions actions :: .notify signal event handles :: .updating i queued :: .following j :: below := by
  unfold interrupts?
  constructor
  · intro interrupts
    split at interrupts
    · next mode stack =>
      simp only [Option.ite_none_right_eq_some, Option.some.injEq] at interrupts
      obtain ⟨own, rfl⟩ := interrupts
      exact ⟨_, _, _, _, _, _, _, _, mode, own, stack⟩
    · cases interrupts
  · rintro ⟨actions, signal, event, handles, i, queued, j, below, mode, own, stack⟩
    simp only [mode, stack, own, if_true]

theorem fires_cases (step : m.step? = some next) (fires : m.fires? index = some f) :
    f.isOfSettings = true ∧ ((m.reads index = true ∧ m.world.reading = .error f) ∨ m.arrives? index = some f) := by
  rcases failures_step step index with fewer | ⟨g, more, _, expected, begun⟩
  · rw [fires_eq_none step fewer] at fires
    cases fires
  · rw [fires_eq_some step more] at fires
    cases fires
    refine ⟨expected, begun.imp_left ?_⟩
    rintro ⟨_, _, reading, failed⟩
    exact ⟨reading, failed⟩

/-- Such a failure comes in three steps to where the record follows the settings. -/
theorem Sound.arrives_of_interrupts (sound : m.Sound) (interrupts : m.interrupts? index = some f) :
    ∃ told loop back, m.step? = some told ∧ told.step? = some loop ∧ loop.step? = some back ∧
      told.stack ≠ [] ∧ loop.stack ≠ [] ∧ loop.mode = .failing f ∧ back.arrives? index = some f ∧
      (back.world.live index).closed = (m.world.live index).closed := by
  obtain ⟨actions, signal, event, handles, i, queued, j, below, mode, own, stack⟩ := interrupts_iff.mp interrupts
  have seated := sound.seated
  rw [stack] at seated
  obtain ⟨_, tells, loops, _⟩ := seated
  obtain rfl : i = index := by
    cases signal with
    | changes | failures => simp_all [Frame.Sits, Signal.isOf]
    | plain | settings => cases own
  obtain rfl : j = i := by simpa [Frame.Sits, eq_comm] using loops
  obtain ⟨w, _, _⟩ := m
  simp only at mode stack
  subst mode stack
  refine ⟨⟨w, .failing f, .notify signal event handles :: .updating j queued :: .following j :: below⟩,
    ⟨w, .failing f, .updating j queued :: .following j :: below⟩, ⟨w.endUpdate j, .failing f, .following j :: below⟩,
    rfl, rfl, rfl, by simp, by simp, rfl, arrives_iff.mpr ⟨below, rfl, rfl⟩, ?_⟩
  simp only [World.endUpdate, World.live_setLive]
  split <;> rfl

/-- What a handler of an open record raises in the course of such an update is told, if it is a
failure of the settings. -/
theorem Sound.tells_of_interrupts (sound : m.Sound) (interrupts : m.interrupts? index = some f)
    (expected : f.isOfSettings = true) (opened : (m.world.live index).closed = false) :
    ∃ told loop back, m.step? = some told ∧ told.step? = some loop ∧ loop.step? = some back ∧
      back.fires? index = some f := by
  obtain ⟨told, loop, back, first, second, third, _, _, _, arrives, same⟩ := sound.arrives_of_interrupts interrupts
  have here := ((sound.step first).step second).step third
  obtain ⟨_, _, stack⟩ := arrives_iff.mp arrives
  exact ⟨told, loop, back, first, second, third,
    fires_eq_some (step?_of_stack stack)
      (here.told_of_arrives (step?_of_stack stack) arrives expected (same.trans opened))⟩

/-- Where a record follows the settings comes either the failure of the reading just before, or
one that has left a handler of the record. -/
theorem Trace.arrives_cases {past : List Machine} (trace : Trace past m) (arrives : m.arrives? index = some f) :
    (∃ reader queued earlier, past = reader :: earlier ∧ reader.step? = some m ∧ reader.reads index = true ∧
      reader.world.reading = .error f ∧ reader.stack = .updating index queued :: m.stack) ∨
    ∃ loop told handler earlier, past = loop :: told :: handler :: earlier ∧ loop.mode = .failing f ∧
      handler.interrupts? index = some f := by
  obtain ⟨rest, failing, stack⟩ := arrives_iff.mp arrives
  obtain ⟨loop, earlier, rfl, trace, step, source⟩ := trace.source failing
  rw [stack] at source
  cases source with
  | own inner => cases inner
  | reading reading failed _ shape => exact .inl ⟨loop, _, earlier, rfl, step, reading, failed, by rw [shape, stack]⟩
  | update mode loops =>
    obtain ⟨told, earlier, rfl, trace, _, source⟩ := trace.source mode
    rw [loops] at source
    cases source with
    | own inner => cases inner
    | told mode' own tells =>
      obtain ⟨handler, earlier, rfl, _, _, source⟩ := trace.source mode'
      rw [tells] at source
      refine .inr ⟨loop, told, handler, earlier, rfl, mode, interrupts_iff.mpr ?_⟩
      cases source with
      | own inner => cases inner
      | handler mode'' acts => exact ⟨_, _, _, _, _, _, _, _, mode'', own, acts⟩
      | unheard | unfollowed => cases own

end Machine

namespace Course

open Machine

variable {start : World} {past : List Machine} {m : Machine} {index : Nat} {f : Failure}

theorem of_passed {before : Machine} (course : Course start (before :: past) m) : Course start past before := by
  cases course with
  | step course _ | act _ course _ => exact course

theorem step_of_passed {before : Machine} (course : Course start (before :: past) m) (going : before.stack ≠ []) :
    before.step? = some m := by
  cases course with
  | step _ step => exact step
  | act _ _ ended => exact absurd ended going

/-- Three steps after a handler has failed its failure is where the record follows the settings. -/
theorem arrives_of_interrupted (course : Course start past m) (fresh : start.Fresh) {handler : Machine}
    (passed : past[2]? = some handler) (interrupts : handler.interrupts? index = some f) :
    m.arrives? index = some f ∧ ∃ loop earlier, past = loop :: earlier ∧ loop.mode = .failing f := by
  obtain ⟨loop, told, earlier, rfl⟩ : ∃ loop told earlier, past = loop :: told :: handler :: earlier := by
    match past, passed with
    | loop :: told :: _ :: earlier, rfl => exact ⟨loop, told, earlier, rfl⟩
  have sound := course.of_passed.of_passed.of_passed.sound fresh
  obtain ⟨_, _, _, first, second, third, tells, loops, failing, arrives, _⟩ := sound.arrives_of_interrupts interrupts
  have going : handler.stack ≠ [] := by
    obtain ⟨_, _, _, _, _, _, _, _, _, _, stack⟩ := interrupts_iff.mp interrupts
    simp [stack]
  cases first.symm.trans (course.of_passed.of_passed.step_of_passed going)
  cases second.symm.trans (course.of_passed.step_of_passed tells)
  cases third.symm.trans (course.step_of_passed loops)
  exact ⟨arrives, loop, _, rfl, failing⟩

end Course

/-- What is told to those who listen for the failures of a live record is the failure of the
reading that has just refused its filter pattern, with the record still in force that
was before, unless it has just left a handler of that record, in an update that a change
of the settings set off. And whenever such a handler raises a failure of the settings,
while the record is open, that one is told. -/
theorem Course.failure_told {start : World} {past : List Machine} {m : Machine} (course : Course start past m)
    (fresh : start.Fresh) (index : Nat) (f : Failure) :
    (∀ next, m.step? = some next → m.fires? index = some f →
      ((∃ reader ∈ (m :: past).take 2, Machine.Refuses index f reader next) ↔
        ¬ ∃ handler, past[2]? = some handler ∧ handler.interrupts? index = some f)) ∧
    (m.interrupts? index = some f → f.isOfSettings = true → (m.world.live index).closed = false →
      ∃ told loop back, m.step? = some told ∧ told.step? = some loop ∧ loop.step? = some back ∧
        back.fires? index = some f) := by
  have sound := course.sound fresh
  refine ⟨fun next step fires => ?_, sound.tells_of_interrupts⟩
  obtain ⟨expected, ⟨reading, failed⟩ | arrives⟩ := Machine.fires_cases step fires
  · have none : ¬ ∃ handler, past[2]? = some handler ∧ handler.interrupts? index = some f := by
      rintro ⟨handler, passed, interrupts⟩
      obtain ⟨_, mode, _⟩ := Machine.arrives_iff.mp (course.arrives_of_interrupted fresh passed interrupts).1
      simp [Machine.reads, mode] at reading
    obtain ⟨record, published⟩ := sound.records_step step index fun _ => ⟨f, failed⟩
    exact iff_of_true ⟨m, by simp, reading, failed, badPattern_of_reading failed expected, record, published⟩ none
  · obtain ⟨_, mode, _⟩ := Machine.arrives_iff.mp arrives
    have silent {reader : Machine} (mode : reader.mode = .failing f) : reader.reads index = false := by
      simp [Machine.reads, mode]
    rcases (course.trace fresh).arrives_cases arrives with
      ⟨reader, _, earlier, rfl, before, reading, failed, _⟩ | ⟨loop, told, handler, earlier, rfl, mode', interrupts⟩
    · have none : ¬ ∃ handler, (reader :: earlier)[2]? = some handler ∧ handler.interrupts? index = some f := by
        rintro ⟨handler, passed, interrupts⟩
        obtain ⟨_, _, _, same, mode'⟩ := course.arrives_of_interrupted fresh passed interrupts
        cases same
        rw [silent mode'] at reading
        cases reading
      have before' := course.of_passed.sound fresh
      obtain ⟨record, published⟩ := before'.records_step before index fun _ => ⟨f, failed⟩
      obtain ⟨record', published'⟩ := sound.records_step step index fun reads => by simp [silent mode] at reads
      exact iff_of_true ⟨reader, by simp, reading, failed, badPattern_of_reading failed expected,
        record'.trans record, published'.trans published⟩ none
    · refine iff_of_false ?_ fun none => none ⟨handler, rfl, interrupts⟩
      rintro ⟨reader, member, refuses⟩
      have reading := refuses.reads
      simp only [List.take_succ_cons, List.take_zero, List.mem_cons, List.not_mem_nil, or_false] at member
      rcases member with rfl | rfl
      · rw [silent mode] at reading
        cases reading
      · rw [silent mode'] at reading
        cases reading

/-- A live record with a handler of its changes that raises a failure of the settings, and with
someone who listens for failures. -/
def raisingSession : List Machine × Machine :=
  (({} : World).doing .openLive).play 40 []
    [.onChange "raising" [[.fail (.raised .settings "mine")]], .onFailure "listening" []]

/-- The first steps of a change that the handler is told of. -/
def raisingChange (fuel : Nat) : List Machine × Machine :=
  raisingSession.2.begin fuel raisingSession.1 (.update "CMakeLite.override.cppStandard" (.text "c++17"))

theorem course_raisingChange (fuel : Nat) : Course {} (raisingChange fuel).1 (raisingChange fuel).2 := by
  have ended : raisingSession.2.stack.isEmpty = true := rfl
  exact ((@Course.start {} .openLive).play 40 _).begin ended fuel _

/-- A pattern that cannot be used is told of as such, and what a handler raises is told as well. -/
theorem failure_told_refused :
    (∃ past m f next, Course {} past m ∧ m.step? = some next ∧ m.fires? 0 = some f ∧
      (∃ reader ∈ (m :: past).take 2, Machine.Refuses 0 f reader next)) ∧
    ∃ past m f told loop back, Course {} past m ∧ m.interrupts? 0 = some f ∧ m.step? = some told ∧
      told.step? = some loop ∧ loop.step? = some back ∧ back.fires? 0 = some f := by
  constructor
  · have course := course_heardChange "filterCompilerArgs" (.text "(") 3
    have facts := course.failure_told World.fresh_empty 0
    have now : ((heardChange "filterCompilerArgs" (.text "(") 3).2.fires? 0).isSome = true ∧
        (heardChange "filterCompilerArgs" (.text "(") 3).2.step?.isSome = true ∧
        ((heardChange "filterCompilerArgs" (.text "(") 3).1[2]?.all fun handler =>
          (handler.interrupts? 0).isNone) = true := by decide +kernel
    generalize heardChange "filterCompilerArgs" (.text "(") 3 = change at course facts now
    obtain ⟨fires, step, others⟩ := now
    obtain ⟨f, fires⟩ := Option.isSome_iff_exists.mp fires
    obtain ⟨next, step⟩ := Option.isSome_iff_exists.mp step
    refine ⟨_, _, f, next, course, step, fires, ((facts f).1 next step fires).mpr ?_⟩
    rintro ⟨handler, passed, interrupts⟩
    simp [passed, interrupts] at others
  · have course := course_raisingChange 5
    have facts := course.failure_told World.fresh_empty 0
    have now : ((raisingChange 5).2.interrupts? 0).any Failure.isOfSettings = true ∧
        ((raisingChange 5).2.world.live 0).closed = false := by decide +kernel
    generalize raisingChange 5 = change at course facts now
    obtain ⟨raised, opened⟩ := now
    obtain ⟨f, interrupts, expected⟩ := (Option.any_eq_true _ _).mp raised
    obtain ⟨told, loop, back, first, second, third, fires⟩ := (facts f).2 interrupts expected opened
    exact ⟨_, _, f, told, loop, back, course, interrupts, first, second, third, fires⟩

/-- A failure that a handler raises is told although no reading has failed, and a new record has
come into force. -/
theorem failure_told_unread : ∃ past m f, Course {} past m ∧ m.fires? 0 = some f ∧
    (∀ passed ∈ m :: past, passed.reads 0 = true → ∃ r, passed.world.reading = .ok r) ∧
    (m.world.live 0).published = 2 ∧ (m.world.live 0).record.cppStandard = some .cpp17 := by
  have course := course_raisingChange 8
  have now : ((raisingChange 8).2.fires? 0).isSome = true ∧
      (∀ passed ∈ (raisingChange 8).2 :: (raisingChange 8).1, passed.reads 0 = true →
        passed.world.reading.toOption.isSome = true) ∧
      ((raisingChange 8).2.world.live 0).published = 2 ∧
      ((raisingChange 8).2.world.live 0).record.cppStandard = some .cpp17 := by decide +kernel
  generalize raisingChange 8 = change at course now
  obtain ⟨fires, fine, published, record⟩ := now
  obtain ⟨f, fires⟩ := Option.isSome_iff_exists.mp fires
  refine ⟨_, _, f, course, fires, fun passed member reads => ?_, published, record⟩
  have some := fine passed member reads
  cases reading : passed.world.reading with
  | ok r => exact ⟨r, rfl⟩
  | error g => simp [reading, Except.toOption] at some

end LayeredSettings

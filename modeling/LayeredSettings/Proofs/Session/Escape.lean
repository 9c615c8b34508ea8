import LayeredSettings.Proofs.Session.Announcement
import LayeredSettings.Proofs.Session.ToldFailure

namespace LayeredSettings

namespace Machine

/-- Whether the step to come is a reading that fails, not for the settings, in the update of a live
record that follows an announcement with `depth` frames below it. -/
def escapes (depth : Nat) (m : Machine) : Bool :=
  match m.stack with
  | .updating _ _ :: .following _ :: .notify .. :: below => m.balks && below.length = depth
  | _ => false

variable {m next first last : Machine} {during : List Machine} {f : Failure} {depth : Nat} {keys : List String}
  {handles : List Nat} {below : List Frame}

theorem escapes_iff : m.escapes depth = true ↔ m.balks = true ∧ ∃ i queued j signal event handles below,
    m.stack = .updating i queued :: .following j :: .notify signal event handles :: below ∧ below.length = depth := by
  unfold escapes
  constructor
  · intro escapes
    split at escapes
    · next stack =>
      simp only [Bool.and_eq_true, decide_eq_true_eq] at escapes
      exact ⟨escapes.1, _, _, _, _, _, _, _, stack, escapes.2⟩
    · cases escapes
  · rintro ⟨balks, i, queued, j, signal, event, handles, below, stack, length⟩
    simp [stack, balks, length]

theorem balks_step (step : m.step? = some next) (balks : m.balks = true) :
    ∃ f, next.mode = .failing f ∧ f.isOfSettings = false ∧ next.stack = m.stack.tail := by
  unfold Machine.balks at balks
  split at balks
  · next i queued rest stack =>
    simp only [Bool.and_eq_true] at balks
    obtain ⟨reading, other⟩ := balks
    split at other
    · next f failed =>
      simp only [Bool.not_eq_true'] at other
      obtain ⟨v, _, _, mode, _, due, opened⟩ := reads_iff.mp reading
      obtain ⟨w, _, _⟩ := m
      simp only at mode stack failed due opened
      subst mode stack
      refine ⟨f, ?_⟩
      cases moves step with
      | read _ _ _ ok => cases failed.symm.trans ok
      | report _ _ _ own expected =>
        cases failed.symm.trans own
        rw [other] at expected
        cases expected
      | refuse _ _ _ own =>
        cases failed.symm.trans own
        exact ⟨rfl, other, rfl⟩
      | finish idle =>
        rw [idle due] at opened
        cases opened
    · cases other
  · cases balks

/-- Such a failure breaks the announcement off. -/
theorem breaks_of_escapes (escapes : m.escapes depth = true) :
    ∃ during broken f, Above depth m during broken ∧ broken.stack.length = depth ∧ broken.mode = .failing f := by
  obtain ⟨balks, i, queued, j, signal, event, handles, below, stack, length⟩ := escapes_iff.mp escapes
  obtain ⟨next, step⟩ : ∃ next, m.step? = some next := ⟨_, step?_of_stack stack⟩
  obtain ⟨f, failing, other, popped⟩ := balks_step step balks
  rw [stack, List.tail_cons] at popped
  obtain ⟨w, _, _⟩ := next
  simp only at failing popped
  subst failing popped
  have lost : step? ⟨w, .failing f, .following j :: .notify signal event handles :: below⟩ =
      some ⟨w, .failing f, .notify signal event handles :: below⟩ := by simp [step?, World.unwind, other]
  have broken : step? ⟨w, .failing f, .notify signal event handles :: below⟩ = some ⟨w, .failing f, below⟩ := rfl
  refine ⟨_, _, f, ((Above.start.step ?_ step).step ?_ lost).step ?_ broken, length, rfl⟩
  · simp [stack]
    omega
  · simp
    omega
  · simp
    omega

theorem raises_of_interrupts {index : Nat} (interrupts : m.interrupts? index = some f) :
    m.raises (fun _ => true) = true := by
  obtain ⟨_, _, _, _, _, _, _, _, mode, _, stack⟩ := interrupts_iff.mp interrupts
  simp [raises, mode, stack]

/-- A failure comes to an announcement out of a handler, or out of the reading of a record that
follows it. -/
theorem Trace.broken {past : List Machine} {event : Event} (trace : Trace past m) (failing : m.mode = .failing f)
    (stack : m.stack = .notify .settings event handles :: below)
    (calm : ∀ passed ∈ past, passed.raises (fun _ => true) = false) :
    ∃ passed ∈ past, passed.escapes below.length = true := by
  obtain ⟨before, earlier, rfl, trace, _, source⟩ := trace.source failing
  have quiet := calm before (List.mem_cons_self ..)
  rw [stack] at source
  cases source with
  | own inner => cases inner
  | handler mode shape => simp [raises, mode, shape] at quiet
  | unheard mode shape =>
    -- those who listen for the failure of a reading are handlers themselves
    obtain ⟨handler, _, rfl, _, _, source⟩ := trace.source mode
    have quiet := calm handler (by simp)
    rw [shape] at source
    cases source with
    | own inner => cases inner
    | handler mode shape => simp [raises, mode, shape] at quiet
  | unfollowed mode other shape =>
    rcases trace.arrives_cases (arrives_iff.mpr ⟨_, mode, shape⟩) with
      ⟨reader, queued, _, rfl, _, reading, failed, loop⟩ | ⟨_, _, handler, _, rfl, _, interrupts⟩
    · refine ⟨reader, by simp, escapes_iff.mpr ⟨?_, _, _, _, _, _, _, _, by rw [loop, shape], rfl⟩⟩
      simp [balks, loop, reading, failed, other]
    · have quiet := calm handler (by simp)
      rw [raises_of_interrupts interrupts] at quiet
      cases quiet

/-- Where no handler fails, an announcement comes to its end unless the failure of a reading
escapes into it. -/
theorem Above.answers_iff {event : Event} (path : Above below.length first during last) (start : first.Sound)
    {v : Value} (mode : first.mode = .answered v) (stack : first.stack = .notify .settings event handles :: below)
    (ended : last.stack.length ≤ below.length) (calm : ∀ passed ∈ during, passed.raises (fun _ => true) = false) :
    (∃ v, last.mode = .answered v) ↔ ∀ passed ∈ during, passed.escapes below.length = false := by
  constructor
  · rintro ⟨v, answered⟩ passed member
    cases escapes : passed.escapes below.length with
    | false => rfl
    | true =>
      obtain ⟨later, rest⟩ := path.cut member
      obtain ⟨_, broken, f, way, length, failing⟩ := breaks_of_escapes escapes
      rw [(rest.unique ended way (Nat.le_of_eq length)).1, failing] at answered
      cases answered
  · intro kept
    cases mode' : last.mode with
    | answered v => exact ⟨v, rfl⟩
    | failing f =>
      exfalso
      cases path with
      | start =>
        rw [mode] at mode'
        cases mode'
      | @step past m _ path deep step =>
        rcases path.delivers mode stack with ⟨above, rest, shape⟩ | ⟨popped, _⟩
        · cases above with
          | cons top others =>
            obtain ⟨others', shape'⟩ := suffix_step step shape (by simp)
            rw [shape'] at ended
            simp only [List.length_append, List.length_cons] at ended
            omega
          | nil =>
            rcases notify_step step shape with
              ⟨g, failing, rfl⟩ | ⟨_, _, rfl⟩ | ⟨_, _, _, above, _, _, _, shape', _⟩
            · obtain ⟨passed, member, escapes⟩ := (path.trace start mode).broken failing shape
                fun passed member => calm passed (List.mem_cons_of_mem _ member)
              rw [kept passed (List.mem_cons_of_mem _ member)] at escapes
              cases escapes
            · cases mode'
            · rw [shape'] at ended
              simp only [List.length_append, List.length_cons] at ended
              omega
        · rw [popped] at deep
          omega

end Machine

/-- A change that is put in force while the settings are open comes to its end. Where no handler
fails meanwhile, it ends with an answer just if it can be told what has changed and the
failure of no reading escapes into its announcement; a reading that fails for the
settings does not. And if it ends with an answer, then everyone who was subscribed to the settings
has been called, or was released before, whenever a key has changed. -/
theorem Course.change_returns {start : World} {past : List Machine} {m : Machine} (course : Course start past m)
    (fresh : start.Fresh) {before after : Flat} (alters : m.alters? = some (before, after))
    (listening : (m.world.registry .settings).closed = false) :
    ∃ next during last, m.step? = some next ∧ Machine.Above m.stack.length next during last ∧
      last.stack.length = m.stack.length ∧
      ((∀ passed ∈ during, passed.raises (fun _ => true) = false) →
        ((∃ v, last.mode = .answered v) ↔
          neverDiffer before after = false ∧ ∀ passed ∈ during, passed.escapes m.stack.length = false)) ∧
      ((∃ v, last.mode = .answered v) → changedKeys before after ≠ [] →
        ∀ handle ∈ (m.world.registry .settings).handles, ∃ passed ∈ during,
          passed.stack.length = m.stack.length + 1 ∧
            passed.Serves .settings (.keys (changedKeys before after)) handle) := by
  obtain ⟨next, step⟩ : ∃ next, m.step? = some next := by
    cases moved : m.step? with
    | some next => exact ⟨next, rfl⟩
    | none => simp [Machine.alters?, Machine.step?_eq_none_iff.mp moved] at alters
  have sound := course.sound fresh
  obtain ⟨_, _, _, _, v, action, actions, rest, _, stack, outcome⟩ := Machine.alter_step step alters
  have depth : m.stack.length = (Frame.actions actions :: rest).length := by rw [stack]; rfl
  rcases outcome with ⟨endless, failing, popped⟩ | ⟨ends, answered, told⟩
  · refine ⟨next, [], next, step, .start, by rw [popped, depth], fun _ => ?_, ?_⟩
    · simp [failing, endless]
    · simp [failing]
  · cases none : (changedKeys before after).isEmpty with
    | true =>
      simp only [none, if_true, List.nil_append] at told
      refine ⟨next, [], next, step, .start, by rw [told, depth], fun _ => ?_, fun _ some => ?_⟩
      · simp [answered, ends]
      · exact absurd (List.isEmpty_iff.mp none) some
    | false =>
      rw [none, World.notification_of_open listening] at told
      obtain ⟨during, last, path, ended⟩ := Machine.Above.exists_back (Frame.actions actions :: rest).length next
      rw [depth]
      refine ⟨next, during, last, step, path, ?_, fun calm => ?_, fun answers _ => ?_⟩
      · obtain ⟨others, shape⟩ := path.suffix [_] told (Nat.le_refl _)
        rw [shape, List.length_append] at ended ⊢
        omega
      · rw [path.answers_iff (sound.step step) answered told ended calm]
        simp [ends]
      · rcases path.delivers answered told with ⟨above, _, shape⟩ | ⟨_, ⟨f, failing⟩ | ⟨_, served⟩⟩
        · rw [shape] at ended
          simp only [List.length_append, List.length_cons] at ended
          omega
        · obtain ⟨v, answer⟩ := answers
          rw [failing] at answer
          cases answer
        · exact served

/-- A live record, and after it someone else who is told of the settings. -/
def sharedSession : List Machine × Machine :=
  (({} : World).doing .openLive).play 40 [] [.onSettings "later" [] []]

/-- The first steps of a change of the filter pattern. -/
def patternChange (pattern : String) (fuel : Nat) : List Machine × Machine :=
  sharedSession.2.begin fuel sharedSession.1 (.update "CMakeLite.override.filterCompilerArgs" (.text pattern))

theorem course_patternChange (pattern : String) (fuel : Nat) :
    Course {} (patternChange pattern fuel).1 (patternChange pattern fuel).2 := by
  have ended : sharedSession.2.stack.isEmpty = true := rfl
  exact ((@Course.start {} .openLive).play 40 _).begin ended fuel _

/-- A pattern that cannot be used does not keep the other one from being told. -/
theorem change_returns_refused : ∃ past m before after next during last, Course {} past m ∧
    m.alters? = some (before, after) ∧ m.step? = some next ∧ Machine.Above m.stack.length next during last ∧
    last.stack.length = m.stack.length ∧ (∃ v, last.mode = .answered v) ∧
    ∃ passed ∈ during, passed.stack.length = m.stack.length + 1 ∧
      passed.Serves .settings (.keys (changedKeys before after)) 1 := by
  have course := course_patternChange "(" 0
  have now : ((patternChange "(" 0).2.alters?.any fun change =>
        !neverDiffer change.1 change.2 && !(changedKeys change.1 change.2).isEmpty) = true ∧
      ((patternChange "(" 0).2.world.registry .settings).closed = false ∧
      1 ∈ ((patternChange "(" 0).2.world.registry .settings).handles ∧
      (patternChange "(" 0).2.stack.length = 1 := by
    decide +kernel
  have onward : ((patternChange "(" 0).2.step?.all fun next =>
      (next.back 1 20 []).2.stack.length ≤ 1 && (next.back 1 20 []).1.all fun passed =>
        !passed.raises (fun _ => true) && !passed.escapes 1) = true := by decide +kernel
  generalize patternChange "(" 0 = change at course now onward
  obtain ⟨alters, listening, member, depth⟩ := now
  obtain ⟨⟨before, after⟩, alters, fine⟩ := (Option.any_eq_true _ _).mp alters
  simp only [Bool.and_eq_true, Bool.not_eq_true', List.isEmpty_eq_false_iff] at fine
  obtain ⟨next, during, last, step, path, length, returns, served⟩ :=
    course.change_returns World.fresh_empty alters listening
  simp only [step, Option.all_some, Bool.and_eq_true, decide_eq_true_eq, List.all_eq_true, Bool.not_eq_true'] at onward
  obtain ⟨ended, passing⟩ := onward
  obtain ⟨-, rfl⟩ := (depth ▸ path).unique (by omega) (Machine.Above.start.back 20) ended
  have answer := (returns fun passed before => (passing passed before).1).mpr
    ⟨fine.1, fun passed before => by rw [depth]; exact (passing passed before).2⟩
  exact ⟨_, _, before, after, next, _, last, course, alters, step, path, length, answer, served answer fine.2 1 member⟩

/-- A pattern that repeats too often makes the change fail, and the other one is not told. -/
theorem change_returns_cut : ∃ past m whole last, Course {} past m ∧ m.alters?.isSome = true ∧
    (m.alters?.all fun change => !neverDiffer change.1 change.2 && !(changedKeys change.1 change.2).isEmpty) = true ∧
    Machine.Above 0 m whole last ∧ last.stack = [] ∧
    (∃ f, last.mode = .failing f ∧ f.message = "the repetition number is too large") ∧
    (∀ passed ∈ m :: whole, passed.raises (fun _ => true) = false) ∧
    (∀ passed ∈ last :: whole, 1 ∈ (passed.world.registry .settings).handles) ∧
    ∀ passed ∈ whole, passed.call?.map (fun call => call.2.2) ≠ some 1 := by
  have course := course_patternChange "a\x7b4294967295\x7d" 0
  have path := (@Machine.Above.start 0 (patternChange "a\x7b4294967295\x7d" 0).2).back 20
  generalize same : Machine.back 0 20 [] (patternChange "a\x7b4294967295\x7d" 0).2 = way at path
  have ended : way.2.stack.isEmpty = true := by rw [← same]; decide +kernel
  have large : (match way.2.mode with
      | .failing f => f.message == "the repetition number is too large"
      | .answered _ => false) = true := by rw [← same]; decide +kernel
  refine ⟨_, _, way.1, way.2, course, by decide +kernel, by decide +kernel, path, List.isEmpty_iff.mp ended,
    ?_, ?_, ?_, ?_⟩
  · cases mode : way.2.mode with
    | failing f => exact ⟨f, rfl, by simpa [mode] using large⟩
    | answered v => simp [mode] at large
  · rw [← same]
    decide +kernel
  · rw [← same]
    decide +kernel
  · rw [← same]
    decide +kernel

end LayeredSettings

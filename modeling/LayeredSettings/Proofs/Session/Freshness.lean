import LayeredSettings.Proofs.Placeholder.Expansion
import LayeredSettings.Proofs.Session.Announcement
import LayeredSettings.Proofs.Session.Calm

namespace LayeredSettings

namespace Machine

variable {m next : Machine} {index : Nat}

/-- Whether the step to come keeps a record from being brought up to date: it puts a change of the
tool's settings in force, but cannot tell what has changed, or it reads the record and
fails, but not for the settings. -/
def lapses (m : Machine) : Bool :=
  m.balks ||
    match m.alters? with
    | some (before, after) => neverDiffer before after && affects (changedKeys before after) toolSection
    | none => false

/-- Whether the tool's settings have not lapsed since a change of them was last announced. -/
def mended : List Machine → Bool
  | [] => true
  | m :: past => m.announces || (!m.lapses && mended past)

/-- A change that is not announced leaves the texts of the tool's settings. -/
theorem sameTexts_step (step : m.step? = some next) (lasting : m.lapses = false) (quiet : m.announces = false) :
    Flat.SameTexts toolSection m.world.settings next.world.settings ∧
      ∀ settings, ({ next.world.context with settings } : Context) = { m.world.context with settings } := by
  rcases context_step step with ⟨_, same⟩ | ⟨after, change, settings, context⟩
  · rw [World.settings_of_context same, same]
    exact ⟨.refl _ _, fun _ => rfl⟩
  · rw [settings, context]
    refine ⟨Flat.sameTexts_of_not_affects ?_, fun _ => rfl⟩
    simp only [lapses, change, Bool.or_eq_false_iff] at lasting
    simp only [announces, change] at quiet
    cases endless : neverDiffer m.world.settings after with
    | true => simpa [endless] using lasting.2
    | false => simpa [endless] using quiet

end Machine

/-- A live record is current: it was read, or could not be read for the settings, from settings
with the same texts in the tool's section. -/
def World.Current (w : World) (index : Nat) : Prop :=
  ∃ settings, Flat.SameTexts toolSection settings w.settings ∧
    ((readOverride settings { w.context with settings := [settings] }).1 = .ok (w.live index).record ∨
      ∃ f, (readOverride settings { w.context with settings := [settings] }).1 = .error f ∧ f.isOfSettings = true)

namespace Machine

variable {m next : Machine} {index : Nat}

/-- A live record is current, or due to be read, or to be told that it is. -/
def UpToDate (index : Nat) (m : Machine) : Prop :=
  m.world.Current index ∨ (m.world.live index).pending = true ∨ m.Promises index

/-- A record that has not been told of an announcement asks to be read when it is. -/
theorem Sound.promises_step (sound : m.Sound) (step : m.step? = some next) (contained : m.Contained)
    (listening : (m.world.registry .settings).closed = false) (bound : index < m.world.lives.length)
    (opened : (m.world.live index).closed = false) (silent : m.asks index = false) (promises : m.Promises index) :
    next.Promises index := by
  obtain ⟨upper, keys, handles, tail, stack, affected, due⟩ := promises
  rcases sound.promise_step step stack affected due bound opened listening with
    asking | ⟨rfl, f, failing, _⟩ | ⟨upper', handles', shape, due'⟩
  · rw [silent] at asking
    cases asking
  · have admits := contained f failing (.notify .settings (.keys keys) handles) (by simp [stack])
    cases admits
  · exact ⟨upper', keys, handles', tail, shape, affected, by rwa [sound.watch_step step bound]⟩

theorem Sound.upToDate_step (sound : m.Sound) (step : m.step? = some next) (contained : m.Contained)
    (lasting : m.lapses = false) (quiet : m.announces = false)
    (listening : (m.world.registry .settings).closed = false) (bound : index < m.world.lives.length)
    (opened : (next.world.live index).closed = false) (before : m.UpToDate index) : next.UpToDate index := by
  obtain ⟨texts, contexts⟩ := sameTexts_step step lasting quiet
  have here := sound.open_before step opened
  have expected : m.balks = false := by
    simp only [lapses, Bool.or_eq_false_iff] at lasting
    exact lasting.1
  -- what is left of a record that is not read in this step
  have left (silent : m.asks index = false) (pending : (m.world.live index).pending = true →
        (next.world.live index).pending = true)
      (record : (next.world.live index).record = (m.world.live index).record) : next.UpToDate index := by
    rcases before with ⟨settings, same, reading⟩ | due | promises
    · refine .inl ⟨settings, same.trans texts, ?_⟩
      rwa [contexts, record]
    · exact .inr (.inl (pending due))
    · exact .inr (.inr (sound.promises_step step contained listening bound here silent promises))
  have now (reading : m.world.reading = .ok (next.world.live index).record ∨
      ∃ f, m.world.reading = .error f ∧ f.isOfSettings = true) : next.UpToDate index := by
    refine .inl ⟨m.world.settings, texts, ?_⟩
    rw [contexts]
    exact reading
  cases live_step sound step index with
  | kept silent _ same => exact left silent (by simp [same]) (by rw [same])
  | closed silent _ same => exact left silent (by simp [same]) (by rw [same])
  | asked _ _ same => exact .inr (.inl (by simp [same, Live.asked]))
  | made new _ => omega
  | read _ ok same => exact now (.inl (by rw [ok, same]; rfl))
  | reported reading failed _ same => exact now (.inr ⟨_, failed, isOfSettings_of_not_balks expected reading failed⟩)
  | @ended queued rest stack failing same =>
    cases reading : m.reads index with
    | true =>
      obtain ⟨f, failed⟩ := failing reading
      exact now (.inr ⟨f, failed, isOfSettings_of_not_balks expected reading failed⟩)
    | false =>
      refine left (by cases mode : m.mode <;> simp [asks, stack, mode]) (fun due => ?_) (by rw [same])
      cases mode : m.mode with
      | answered v =>
        rw [reads_iff.mpr ⟨v, queued, rest, mode, stack, due, here⟩] at reading
        cases reading
      | failing f =>
        have admits := contained f mode (.updating index queued) (by simp [stack])
        cases admits

/-- A new live record is due to be read. -/
theorem pending_of_new (step : m.step? = some next) (new : m.world.lives.length ≤ index)
    (bound : index < next.world.lives.length) : (next.world.live index).pending = true := by
  have made := makes_of_longer step (Nat.lt_of_le_of_lt new bound)
  rw [made, World.length_makeLive] at bound
  rw [made, World.live_makeLive, if_pos (by omega)]
  rfl

end Machine

namespace Course

open Machine

variable {start : World} {past : List Machine} {m : Machine}

theorem upToDate (course : Course start past m) (fresh : start.Fresh)
    (calm : ∀ passed ∈ past, passed.raises (fun _ => true) = false)
    (listening : ∀ passed ∈ past, (passed.world.registry .settings).closed = false) (mended : mended past = true) :
    m.Contained ∧ ∀ index, index < m.world.lives.length → (m.world.live index).closed = false → m.UpToDate index := by
  induction course with
  | start action =>
    exact ⟨(fun f failing => by cases failing), fun index bound => by simp [World.doing, fresh.lives] at bound⟩
  | @act past m action course ended ih =>
    have earlier : Machine.mended past = true := by
      have none : m.alters? = none := by simp [alters?, ended]
      simp only [Machine.mended, announces, none, Bool.false_or, Bool.and_eq_true] at mended
      exact mended.2
    obtain ⟨_, upToDate⟩ := ih (fun passed member => calm passed (List.mem_cons_of_mem _ member))
      (fun passed member => listening passed (List.mem_cons_of_mem _ member)) earlier
    refine ⟨(fun f failing => by cases failing), fun index bound opened => ?_⟩
    rcases upToDate index bound opened with current | due | ⟨upper, _, _, _, stack, _⟩
    · exact .inl current
    · exact .inr (.inl due)
    · simp [ended] at stack
  | @step past m next course step ih =>
    have sound := course.sound fresh
    have here := listening m (List.mem_cons_self ..)
    cases announced : m.announces with
    | true =>
      obtain ⟨_, _, _, _, _, _, _, _, mode, lives, _⟩ := announce_step step announced here
      refine ⟨fun f failing => by simp [mode] at failing, fun index bound opened => .inr (.inr ?_)⟩
      rw [lives] at bound
      simp only [World.live, lives] at opened
      exact sound.promises_of_announces step announced here bound opened
    | false =>
      simp only [Machine.mended, announced, Bool.false_or, Bool.and_eq_true, Bool.not_eq_true'] at mended
      obtain ⟨lasting, earlier⟩ := mended
      obtain ⟨contained, upToDate⟩ := ih (fun passed member => calm passed (List.mem_cons_of_mem _ member))
        (fun passed member => listening passed (List.mem_cons_of_mem _ member)) earlier
      have expected : m.balks = false := by
        simp only [lapses, Bool.or_eq_false_iff] at lasting
        exact lasting.1
      refine ⟨sound.contained_step step contained (calm m (List.mem_cons_self ..)) expected,
        fun index bound opened => ?_⟩
      rcases Nat.lt_or_ge index m.world.lives.length with old | new
      · exact sound.upToDate_step step contained lasting announced here old opened
          (upToDate index old (sound.open_before step opened))
      · exact .inr (.inl (pending_of_new step new bound))

end Course

/-- A live record agrees with another one in all that is read from the tool's own settings. The
compiler path may also refer to other settings, and then it need not agree. -/
structure World.Agrees (w : World) (index : Nat) (r : OverrideRecord) : Prop where
  intelliSenseMode : (w.live index).record.intelliSenseMode = r.intelliSenseMode
  cppStandard : (w.live index).record.cppStandard = r.cppStandard
  cStandard : (w.live index).record.cStandard = r.cStandard
  filterCompilerArgs : (w.live index).record.filterCompilerArgs = r.filterCompilerArgs
  compilerPath :
    (∀ template, w.settings.textOf (Flat.overrideKey "compilerPath") = some template →
      w.context.expandsInto toolSection template = true) →
      (w.live index).record.compilerPath = r.compilerPath

/-- A record that is current agrees with the one that the settings in force give, unless they
cannot be read. -/
theorem World.Current.agrees {w : World} {index : Nat} (current : w.Current index)
    (readable : w.settings.filterFailure? = none) : w.Agrees index (w.settings.plainRecord w.context) := by
  obtain ⟨settings, same, reading⟩ := current
  have texts (name : String) (key : touches toolSection (Flat.overrideKey name) = true) :
      settings.textOf (Flat.overrideKey name) = w.settings.textOf (Flat.overrideKey name) := same _ key
  have pattern := texts "filterCompilerArgs" (by decide +kernel)
  rcases reading with ok | ⟨f, failed, expected⟩
  · obtain ⟨_, _, record⟩ := readOverride_ok_iff.mp ok
    have mode := texts "intelliSenseMode" (by decide +kernel)
    have cpp := texts "cppStandard" (by decide +kernel)
    have c := texts "cStandard" (by decide +kernel)
    have path := texts "compilerPath" (by decide +kernel)
    refine ⟨?_, ?_, ?_, ?_, fun inside => ?_⟩
    · simp only [record, Flat.plainRecord, mode]
    · simp only [record, Flat.plainRecord, cpp]
    · simp only [record, Flat.plainRecord, c]
    · simp only [record, Flat.plainRecord, pattern]
    · simp only [record, Flat.plainRecord, path]
      cases template : w.settings.textOf (Flat.overrideKey "compilerPath") with
      | none => rfl
      | some raw =>
        have whole : ({ w.context with settings := [w.settings] } : Context) = w.context := rfl
        have expanded := w.context.expand_congr same raw (by
          rw [whole]
          exact inside raw template)
        rw [whole] at expanded
        simp only [Option.map_some, expanded]
  · have unreadable := filterFailure_of_reading failed expected
    rw [Flat.filterFailure?, pattern] at unreadable
    rw [Flat.filterFailure?, unreadable] at readable
    cases readable

/-- In a session in which no handler fails and the settings are open, every open record agrees
at rest with the one that the settings in force give, if their filter pattern can be read.
This is so unless the tool's settings have lapsed since a change of them was last
announced; and there is no such record only if a setting cannot be described. -/
theorem Course.record_at_rest {start : World} {past : List Machine} {m : Machine} (course : Course start past m)
    (fresh : start.Fresh) (calm : ∀ passed ∈ past, passed.raises (fun _ => true) = false)
    (listening : ∀ passed ∈ past, (passed.world.registry .settings).closed = false)
    (mended : Machine.mended past = true) (rest : m.stack = []) {index : Nat} (bound : index < m.world.lives.length)
    (opened : (m.world.live index).closed = false) (readable : m.world.settings.filterFailure? = none) :
    (∃ r, m.world.reading = .ok r ∧ m.world.Agrees index r) ∨
      m.world.reading = .error (.valueFault .tooLong) ∧
        ∃ name ∈ Flat.overrideNames, m.world.settings.describable name = false := by
  have sound := course.sound fresh
  have current : m.world.Current index := by
    rcases (course.upToDate fresh calm listening mended).2 index bound opened with
      current | due | ⟨_, _, _, _, stack, _⟩
    · exact current
    · have loops := sound.loops index
      simp [rest, sound.tables.asked due] at loops
    · simp [rest] at stack
  cases described : Flat.overrideNames.all m.world.settings.describable with
  | true => exact .inl ⟨_, readOverride_ok_iff.mpr ⟨described, readable, rfl⟩, current.agrees readable⟩
  | false =>
    refine .inr ⟨?_, by simpa using described⟩
    rw [World.reading, readOverride_eq, described]
    rfl

/-- What is asked for while a change is told of comes to the record as well. -/
theorem record_at_rest_asked : ∃ past m r, Course {} past m ∧ m.stack = [] ∧ m.world.reading = .ok r ∧
    r.cppStandard = some .cpp20 ∧ m.world.Agrees 0 r := by
  have ended : (askingSession []).2.stack.isEmpty = true := by decide +kernel
  have course := course_askingChange ended 60
  have before : (∀ passed ∈ (askingChange [] 60).1, passed.raises (fun _ => true) = false) ∧
      (∀ passed ∈ (askingChange [] 60).1, (passed.world.registry .settings).closed = false) ∧
      Machine.mended (askingChange [] 60).1 = true := by decide +kernel
  have now : (askingChange [] 60).2.stack.isEmpty = true ∧ 0 < (askingChange [] 60).2.world.lives.length ∧
      ((askingChange [] 60).2.world.live 0).closed = false ∧
      (askingChange [] 60).2.world.settings.filterFailure? = none ∧
      Flat.overrideNames.all (askingChange [] 60).2.world.settings.describable = true ∧
      ((askingChange [] 60).2.world.live 0).record.cppStandard = some .cpp20 := by decide +kernel
  generalize askingChange [] 60 = change at course before now
  obtain ⟨calm, listening, mended⟩ := before
  obtain ⟨rest, bound, opened, readable, described, told⟩ := now
  have rest := List.isEmpty_iff.mp rest
  rcases course.record_at_rest World.fresh_empty calm listening mended rest bound opened readable with
    ⟨r, reading, agrees⟩ | ⟨_, name, member, long⟩
  · exact ⟨_, _, r, course, rest, reading, agrees.cppStandard.symm.trans told, agrees⟩
  · rw [List.all_eq_true.mp described name member] at long
    cases long

/-- A live record, and then a second reading of the file, which also gives a standard. -/
def endlessSession : List Machine × Machine :=
  (({} : World).doing (endlessChange 0 [])).play 40 []
    [.openLive, endlessChange 1 [(.text "CMakeLite.override.cppStandard", .text "c++17")]]

/-- The settings before and after are never told apart, and so the record lacks the standard. -/
theorem record_at_rest_stale : ∃ past m, Course {} past m ∧ m.stack = [] ∧
    (∀ passed ∈ past, passed.raises (fun _ => true) = false ∧ passed.balks = false) ∧
    (∀ passed ∈ past, (passed.world.registry .settings).closed = false) ∧
    0 < m.world.lives.length ∧ (m.world.live 0).closed = false ∧ m.world.settings.filterFailure? = none ∧
    ∃ r, m.world.reading = .ok r ∧ (m.world.live 0).record.cppStandard ≠ r.cppStandard := by
  have course := (@Course.start {} (endlessChange 0 [])).play 40
    [.openLive, endlessChange 1 [(.text "CMakeLite.override.cppStandard", .text "c++17")]]
  have before : ∀ passed ∈ endlessSession.1, (passed.raises (fun _ => true) = false ∧ passed.balks = false) ∧
      (passed.world.registry .settings).closed = false := by decide +kernel
  have now : endlessSession.2.stack.isEmpty = true ∧ 0 < endlessSession.2.world.lives.length ∧
      (endlessSession.2.world.live 0).closed = false ∧ endlessSession.2.world.settings.filterFailure? = none ∧
      Flat.overrideNames.all endlessSession.2.world.settings.describable = true ∧
      (endlessSession.2.world.live 0).record.cppStandard ≠
        (endlessSession.2.world.settings.plainRecord endlessSession.2.world.context).cppStandard := by decide +kernel
  obtain ⟨rest, bound, opened, readable, described, stale⟩ := now
  exact ⟨_, endlessSession.2, course, List.isEmpty_iff.mp rest, fun passed member => (before passed member).1,
    fun passed member => (before passed member).2, bound, opened, readable, _,
    readOverride_ok_iff.mpr ⟨described, readable, rfl⟩, stale⟩

end LayeredSettings

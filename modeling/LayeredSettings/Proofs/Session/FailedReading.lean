import LayeredSettings.Proofs.Session.Calm

namespace LayeredSettings

/-- The failures that a frame tells those who listen for the failures of a live record. -/
def Frame.failures (index : Nat) : Frame → List Failure
  | .notify (.failures i) (.failure f) _ => if i = index then [f] else []
  | _ => []

def Frame.isFollowing : Frame → Bool
  | .following _ => true
  | _ => false

theorem World.failures_notification (w : World) {signal : Signal} (event : Event) (index : Nat)
    (other : signal ≠ .failures index) : (w.notification signal event).flatMap (Frame.failures index) = [] := by
  refine w.flatMap_notification event fun handles => ?_
  cases signal with
  | failures i =>
    have differs : i ≠ index := by rintro rfl; exact other rfl
    cases event <;> simp [Frame.failures, differs]
  | plain | settings | changes => rfl

theorem World.failures_notification_cases (w : World) (i index : Nat) (f : Failure) :
    (w.notification (.failures i) (.failure f)).flatMap (Frame.failures index) = [] ∨
      i = index ∧ (w.notification (.failures i) (.failure f)).flatMap (Frame.failures index) = [f] := by
  by_cases same : i = index
  · simp only [notification]
    split
    · exact .inl rfl
    · exact .inr ⟨same, by simp [Frame.failures, same]⟩
  · exact .inl (w.failures_notification _ index (by simpa using same))

theorem Frame.failures_of_silent (index : Nat) {frame : Frame} (silent : frame.tellsRecord = false) :
    frame.failures index = [] := by
  cases frame with
  | notify signal => cases signal <;> first | rfl | cases silent
  | actions | attempting | updating | following | making | leaving | releasing | ending => rfl

namespace Machine

/-- The failure that the step to come begins to tell those who listen for the failures of a live
record. -/
def fires? (index : Nat) (m : Machine) : Option Failure :=
  match m.step? with
  | none => none
  | some next =>
    if (m.stack.flatMap (Frame.failures index)).length < (next.stack.flatMap (Frame.failures index)).length then
      (next.stack.flatMap (Frame.failures index)).head?
    else none

/-- The failure of the reading to come of a live record, if it is not the first one of an update
that someone asked for on their own account. -/
def fails? (index : Nat) (m : Machine) : Option Failure :=
  match m.stack with
  | .updating _ queued :: rest =>
    if m.reads index && (queued || rest.head?.any Frame.isFollowing) then
      match m.world.reading with
      | .error f => some f
      | .ok _ => none
    else none
  | _ => none

/-- The failure that is about to come from the update of a live record to where the record
follows the settings. -/
def arrives? (index : Nat) (m : Machine) : Option Failure :=
  match m.mode, m.stack with
  | .failing f, .following i :: _ => if i = index then some f else none
  | _, _ => none

/-- How a failed reading comes to light, and nothing else does: the first one of an update that
was asked for fails for whoever asked, any other one is told to those who listen for
failures, at once or where the record follows the settings. -/
inductive Surfaces (index : Nat) (f : Failure) (m next : Machine) : Prop
  | raised {rest : List Frame} :
      m.stack = .updating index false :: rest → rest.head?.any Frame.isFollowing = false →
      next.mode = .failing f → next.stack = rest → Surfaces index f m next
  | queued {rest : List Frame} :
      m.stack = .updating index true :: rest → next.mode = .answered .null →
      next.stack = .notify (.failures index) (.failure f) (m.world.registry (.failures index)).handles :: m.stack →
      Surfaces index f m next
  | followed {rest : List Frame} {told : Machine} :
      m.stack = .updating index false :: .following index :: rest → next.mode = .failing f →
      next.stack = .following index :: rest → next.step? = some told → told.mode = .answered .null →
      told.stack = .notify (.failures index) (.failure f) (m.world.registry (.failures index)).handles :: rest →
      Surfaces index f m next

variable {m next : Machine} {index : Nat}

/-- A step that is no reading, or one that fails, leaves all records as they are. -/
theorem Sound.records_step (sound : m.Sound) (step : m.step? = some next) (i : Nat)
    (idle : m.reads i = true → ∃ f, m.world.reading = .error f) :
    (next.world.live i).record = (m.world.live i).record ∧
      (next.world.live i).published = (m.world.live i).published := by
  cases live_step sound step i with
  | kept _ _ same | closed _ _ same | asked _ _ same | reported _ _ _ same | ended _ _ same =>
    simp [same, Live.asked]
  | read reading ok _ =>
    obtain ⟨f, failed⟩ := idle reading
    rw [failed] at ok
    cases ok
  | made new same =>
    rw [same, World.live_of_le (Nat.le_of_eq new)]
    exact ⟨rfl, rfl⟩

theorem Sound.failures_open (sound : m.Sound) (opened : (m.world.live index).closed = false) :
    (m.world.registry (.failures index)).closed = false := by
  cases shut : (m.world.registry (.failures index)).closed with
  | false => rfl
  | true =>
    rw [(sound.tables.heard (.inr shut)).2] at opened
    cases opened

theorem Sound.surfaces (sound : m.Sound) (step : m.step? = some next) {f : Failure}
    (reading : m.reads index = true) (failed : m.world.reading = .error f) (expected : f.isOfSettings = true) :
    m.Surfaces index f next := by
  obtain ⟨v, queued, rest, mode, stack, _, opened⟩ := reads_iff.mp reading
  have hears := sound.failures_open opened
  have seated := sound.seated
  obtain ⟨w, _, _⟩ := m
  simp only at mode stack failed hears
  subst mode stack
  cases moves step with
  | read _ _ _ ok =>
    rw [failed] at ok
    cases ok
  | report log _ _ own =>
    cases failed.symm.trans own
    refine .queued rfl rfl ?_
    rw [World.notification_of_open hears]
    rfl
  | refuse log _ _ own other =>
    cases failed.symm.trans own
    rw [expected, Bool.and_true] at other
    subst other
    rcases seated.1 with ⟨below, rfl⟩ | ⟨below, rfl⟩ | ⟨actions, below, rfl⟩
    · obtain ⟨log', reported⟩ := ((w.endUpdate index).withLog log).reportFailure_eq index f
      have told := World.notification_of_open (w := (w.endUpdate index).withLog log) hears (.failure f)
      refine .followed rfl rfl rfl (step?_of_stack rfl) ?_ ?_
      · simp only [outcome, World.unwind, expected, if_true]
      · simp only [outcome, World.unwind, expected, if_true, reported, told]
        rfl
    · exact .raised rfl rfl rfl rfl
    · exact .raised rfl rfl rfl rfl
  | finish idle =>
    rw [idle ‹_›] at opened
    cases opened

/-- An update begins whenever an open record is asked for and none of it is under way. -/
theorem Sound.reads_of_asks (sound : m.Sound) (step : m.step? = some next) (asking : m.asks index = true)
    (ready : ∀ frame ∈ m.stack, frame.isLoop index = false) : next.reads index = true := by
  have idle : (m.world.live index).updating = false := by
    have none := sound.loops index
    rw [List.countP_eq_zero.mpr fun frame member => by simp [ready frame member]] at none
    cases running : (m.world.live index).updating with
    | false => rfl
    | true => simp [running] at none
  have begun (opened : (m.world.live index).closed = false) :
      m.world.requestUpdate index = (m.world.setLive index (m.world.live index).asked, [.updating index false]) := by
    rw [World.requestUpdate_of_open opened, idle]
    rfl
  unfold asks at asking
  simp only [Bool.and_eq_true, Bool.not_eq_true'] at asking
  obtain ⟨opened, asking⟩ := asking
  split at asking
  · next v actions rest mode stack =>
    simp only [decide_eq_true_eq] at asking
    rw [step?_of_stack stack, Option.some.injEq] at step
    subst step
    refine reads_of_begun sound (step?_of_stack stack) (?_ : _ = .updating index false :: .actions actions :: rest)
    simp [outcome, mode, World.resume, World.perform, World.forCurrent, asking, begun opened]
  · next v signal keys handle handles rest mode stack =>
    simp only [Bool.and_eq_true] at asking
    obtain ⟨source, found⟩ := World.follows_iff.mp asking.1
    rw [step?_of_stack stack, Option.some.injEq] at step
    subst step
    refine reads_of_begun sound (step?_of_stack stack)
      (?_ : _ = .updating index false :: .following index :: .notify signal (.keys keys) handles :: rest)
    simp [outcome, mode, World.resume, World.isReleased, found, World.call, World.follow, opened, asking.2, begun]
  · cases asking

theorem fires_eq_none (step : m.step? = some next)
    (fewer : (next.stack.flatMap (Frame.failures index)).length ≤ (m.stack.flatMap (Frame.failures index)).length) :
    m.fires? index = none := by
  unfold fires?
  rw [step]
  exact if_neg (Nat.not_lt.mpr fewer)

theorem fires_eq_some (step : m.step? = some next) {f : Failure}
    (more : next.stack.flatMap (Frame.failures index) = f :: m.stack.flatMap (Frame.failures index)) :
    m.fires? index = some f := by
  unfold fires?
  rw [step]
  simp only [more, List.length_cons, Nat.lt_succ_self, if_true, List.head?_cons]

theorem fails_iff {f : Failure} : m.fails? index = some f ↔ ∃ queued rest, m.stack = .updating index queued :: rest ∧
    m.reads index = true ∧ m.world.reading = .error f ∧ (queued || rest.head?.any Frame.isFollowing) = true := by
  unfold fails?
  constructor
  · intro fails
    split at fails
    · next i queued rest stack =>
      split at fails
      · next reading =>
        simp only [Bool.and_eq_true] at reading
        obtain ⟨_, _, _, _, stack', _⟩ := reads_iff.mp reading.1
        cases stack.symm.trans stack'
        split at fails
        · next failed =>
          cases fails
          exact ⟨queued, rest, stack, reading.1, failed, reading.2⟩
        · cases fails
      · cases fails
    · cases fails
  · rintro ⟨queued, rest, stack, reading, failed, waiting⟩
    simp only [stack, reading, failed, waiting, Bool.and_self, if_true]

theorem arrives_iff {f : Failure} :
    m.arrives? index = some f ↔ ∃ rest, m.mode = .failing f ∧ m.stack = .following index :: rest := by
  unfold arrives?
  constructor
  · intro arrives
    split at arrives
    · next mode stack =>
      simp only [Option.ite_none_right_eq_some, Option.some.injEq] at arrives
      obtain ⟨rfl, rfl⟩ := arrives
      exact ⟨_, mode, stack⟩
    · cases arrives
  · rintro ⟨rest, mode, stack⟩
    simp only [mode, stack, if_true]

/-- What comes to where a record follows the settings has just failed to be read. -/
theorem Sound.arrives_step (sound : m.Sound) (step : m.step? = some next) (contained : m.Contained)
    {f : Failure} (arrives : next.arrives? index = some f) :
    m.fails? index = some f ∧ m.arrives? index = none ∧ (next.world.live index).closed = false := by
  obtain ⟨rest, failing, stack⟩ := arrives_iff.mp arrives
  have source := sound.source step failing
  rw [stack] at source
  cases source with
  | own inner => cases inner
  | update mode shape => cases contained f mode _ (by rw [shape]; rfl)
  | reading reading failed other shape =>
    obtain ⟨v, _, _, mode, _, _, opened⟩ := reads_iff.mp reading
    refine ⟨by simp [fails?, shape, reading, failed, Frame.isFollowing], by simp [arrives?, mode], ?_⟩
    cases live_step sound step index with
    | kept _ _ same | asked _ _ same | ended _ _ same => simp [same, Live.asked, opened]
    | closed _ elsewhere => simp [atLoop, shape, Frame.isLoop] at elsewhere
    | read _ ok =>
      rw [failed] at ok
      cases ok
    | reported _ _ _ same => simp [same, opened]
    | made _ same => simp [same, Live.asked]

/-- A step that begins to tell a failure reports a reading that was asked for while its loop ran,
or what has come to where a record follows the settings. -/
theorem failures_step (step : m.step? = some next) (index : Nat) :
    (next.stack.flatMap (Frame.failures index)).length ≤ (m.stack.flatMap (Frame.failures index)).length ∨
      ∃ f, next.stack.flatMap (Frame.failures index) = f :: m.stack.flatMap (Frame.failures index) ∧
        next.mode = .answered .null ∧ f.isOfSettings = true ∧
        ((∃ rest, m.stack = .updating index true :: rest ∧ m.reads index = true ∧ m.world.reading = .error f) ∨
          m.arrives? index = some f) := by
  cases moves step with
  | done | attempted | caught | followed | made | left | refuse | finish | dropActions | dropUpdate | dropFollowed
  | unmade | unleft | released | parted | ended | dropReleasing | interrupted | dropEnding =>
    exact .inl (by simp [Frame.failures])
  | told | dropNotify => exact .inl (by simp)
  | @pass w v signal event | @call w v signal event =>
    refine .inl (Nat.le_of_eq ?_)
    cases signal <;> cases event <;> simp [Frame.failures]
  | @follow w v signal keys =>
    refine .inl (Nat.le_of_eq ?_)
    have none (i : Nat) := w.flatMap_requestUpdate i (f := Frame.failures index) rfl
    cases signal <;> simp [Frame.failures, none]
  | act _ deed =>
    refine .inl (Nat.le_of_eq ?_)
    have none := deed.flatMap_frames fun _ => Frame.failures_of_silent index
    simp [Frame.failures, none]
  | read => exact .inl (Nat.le_of_eq (by simp [Frame.failures, World.failures_notification]))
  | @report w v i rest f log due opened own expected =>
    rcases w.failures_notification_cases i index f with none | ⟨rfl, told⟩
    · exact .inl (Nat.le_of_eq (by simp [Frame.failures, none]))
    · refine .inr ⟨f, by simp [Frame.failures, told], rfl, expected, .inl ⟨rest, rfl, ?_, own⟩⟩
      exact reads_loop.mpr ⟨rfl, due, opened⟩
  | @reportFollowed w f i rest log expected =>
    rcases w.failures_notification_cases i index f with none | ⟨rfl, told⟩
    · exact .inl (Nat.le_of_eq (by simp [Frame.failures, none]))
    · exact .inr ⟨f, by simp [Frame.failures, told], rfl, expected, .inr (by simp [arrives?])⟩

/-- What has come to where an open record follows the settings is told. -/
theorem Sound.told_of_arrives (sound : m.Sound) (step : m.step? = some next) {f : Failure}
    (arrives : m.arrives? index = some f) (expected : f.isOfSettings = true)
    (opened : (m.world.live index).closed = false) :
    next.stack.flatMap (Frame.failures index) = f :: m.stack.flatMap (Frame.failures index) := by
  obtain ⟨rest, mode, stack⟩ := arrives_iff.mp arrives
  have hears := sound.failures_open opened
  obtain ⟨w, _, _⟩ := m
  simp only at mode stack hears
  subst mode stack
  cases moves step with
  | reportFollowed =>
    rw [World.notification_of_open hears]
    simp [Frame.failures]
  | dropFollowed other =>
    rw [expected] at other
    cases other

/-- What a step begins to tell is the failure of a reading that no one waits for, or the failure
that has come to where a record follows the settings; and there is no other way for
either. -/
theorem Sound.fails_step (sound : m.Sound) (step : m.step? = some next) (contained : m.Contained)
    (expected : m.balks = false)
    (arriving : ∀ f, m.arrives? index = some f → (m.world.live index).closed = false) :
    (m.fails? index).toList ++ (m.arrives? index).toList = (next.arrives? index).toList ++ (m.fires? index).toList := by
  rcases failures_step step index with fewer | ⟨f, more, mode, _, ⟨rest, stack, reading, failed⟩ | arrives⟩
  · rw [fires_eq_none step fewer]
    cases fails : m.fails? index with
    | some f =>
      obtain ⟨queued, rest, stack, reading, failed, waiting⟩ := fails_iff.mp fails
      cases sound.surfaces step reading failed (isOfSettings_of_not_balks expected reading failed) with
      | raised stack' none =>
        cases stack.symm.trans stack'
        simp [none] at waiting
      | queued _ _ told =>
        rw [told, List.flatMap_cons, Frame.failures, if_pos rfl, List.singleton_append, List.length_cons] at fewer
        omega
      | followed _ failing popped => simp [arrives?, stack, failing, popped]
    | none =>
      cases arrives : m.arrives? index with
      | some f =>
        obtain ⟨rest, mode, stack⟩ := arrives_iff.mp arrives
        have own : f.isOfSettings = true := contained f mode (.following index) (by rw [stack]; rfl)
        rw [sound.told_of_arrives step arrives own (arriving f arrives), List.length_cons] at fewer
        omega
      | none =>
        cases arrives' : next.arrives? index with
        | none => rfl
        | some f => cases fails.symm.trans (sound.arrives_step step contained arrives').1
  · have fails : m.fails? index = some f := fails_iff.mpr ⟨true, rest, stack, reading, failed, rfl⟩
    rw [fires_eq_some step more, fails]
    simp [arrives?, stack, mode]
  · have fails : m.fails? index = none := by
      obtain ⟨_, mode, _⟩ := arrives_iff.mp arrives
      simp [Option.eq_none_iff_forall_ne_some, fails_iff, reads, mode]
    rw [fires_eq_some step more, fails, arrives]
    simp [arrives?, mode]

/-- Where an update has ended, none of that record is under way. -/
theorem Above.ready {first : Machine} {during : List Machine} {queued : Bool} {below : List Frame}
    (path : Above below.length first during m) (start : first.Sound)
    (stack : first.stack = .updating index queued :: below) (ended : m.stack.length ≤ below.length)
    {frame : Frame} (member : frame ∈ m.stack) : frame.isLoop index = false := by
  obtain ⟨others, shape⟩ := path.suffix [_] stack (Nat.le_refl _)
  rw [shape, List.length_append] at ended
  rw [shape, List.length_eq_zero_iff.mp (by omega : others.length = 0), List.nil_append] at member
  have once := start.loops index
  rw [stack] at once
  simp only [List.countP_cons, Frame.isLoop, decide_true, if_true] at once
  have none : below.countP (Frame.isLoop index) = 0 := by split at once <;> omega
  simpa using List.countP_eq_zero.mp none frame member

/-- A failed reading tells no one of a change. -/
theorem Sound.silent_of_surfaces (sound : m.Sound) {f : Failure} (surfaces : m.Surfaces index f next)
    {frame : Frame} (member : frame ∈ next.stack) : frame.tellsChange index = false := by
  cases surfaces with
  | raised stack _ _ popped =>
    rw [popped] at member
    exact sound.silent_below [] stack member
  | queued stack _ told =>
    rw [told, stack] at member
    rcases List.mem_cons.mp member with rfl | member
    · rfl
    · rcases List.mem_cons.mp member with rfl | member
      · rfl
      · exact sound.silent_below [] stack member
  | followed stack _ popped =>
    rw [popped] at member
    exact sound.silent_below [] stack member

end Machine

namespace Course

open Machine

variable {start : World} {past : List Machine} {m : Machine}

/-- The failures told so far are those of the readings that no one waited for, but for one that
has not come to where the record follows the settings. -/
theorem failures_told (course : Course start past m) (fresh : start.Fresh)
    (calm : ∀ passed ∈ past, passed.raises (fun _ => true) = false ∧ passed.balks = false) (index : Nat) :
    past.filterMap (fails? index) = (m.arrives? index).toList ++ past.filterMap (fires? index) ∧
      ∀ f, m.arrives? index = some f → (m.world.live index).closed = false := by
  induction course with
  | start action => exact ⟨rfl, by simp [arrives?, World.doing]⟩
  | @act past m action course ended ih =>
    obtain ⟨same, _⟩ := ih fun passed member => calm passed (List.mem_cons_of_mem _ member)
    have none : m.arrives? index = none := by simp [arrives?, ended]
    refine ⟨?_, by simp [arrives?, World.doing]⟩
    rw [List.filterMap_cons_none (by simp [fails?, ended]),
      List.filterMap_cons_none (by simp [fires?, step?_eq_none_iff.mpr ended]), same, none]
    rfl
  | @step past m next course step ih =>
    have earlier : ∀ passed ∈ past, passed.raises (fun _ => true) = false ∧ passed.balks = false :=
      fun passed member => calm passed (List.mem_cons_of_mem _ member)
    obtain ⟨same, arriving⟩ := ih earlier
    have sound := course.sound fresh
    have contained := course.contained fresh earlier
    refine ⟨?_, fun f arrives => (sound.arrives_step step contained arrives).2.2⟩
    have now := sound.fails_step step contained (calm m (List.mem_cons_self ..)).2 arriving
    have cons (g : Machine → Option Failure) : (m :: past).filterMap g = (g m).toList ++ past.filterMap g := by
      cases own : g m <;> simp [own]
    rw [cons, cons, same, ← List.append_assoc, now, List.append_assoc]

end Course

/-- In a session in which no handler fails and readings fail only for the settings, a reading that
fails leaves all records as they are and tells no one of a change. It comes to light
once: it fails for whoever asked for an update of their own account, or is told to those
who listen for failures, and then neither the update nor the notification under way
fails. In any case the record is ready to be read again. The environment that a reading looks
up variables in is assumed to be a plain mapping. -/
theorem Course.failed_reading {start : World} {past : List Machine} {m : Machine} (course : Course start past m)
    (fresh : start.Fresh)
    (calm : ∀ passed ∈ m :: past, passed.raises (fun _ => true) = false ∧ passed.balks = false) (index : Nat) :
    (∀ f next, m.reads index = true → m.world.reading = .error f → m.step? = some next →
      (∀ i, (next.world.live i).record = (m.world.live i).record ∧
        (next.world.live i).published = (m.world.live i).published) ∧
      (∀ frame ∈ next.stack, frame.tellsChange index = false) ∧ m.Surfaces index f next ∧
      ∀ above frame below whole last, m.stack = above ++ frame :: below → frame.endures = true →
        Machine.Above below.length m whole last → last.stack.length ≤ below.length →
        (∀ passed ∈ whole, passed.raises (fun _ => true) = false ∧ passed.balks = false) →
        ∃ v, last.mode = .answered v) ∧
    (m.stack = [] → past.filterMap (Machine.fires? index) = past.filterMap (Machine.fails? index)) ∧
    (∀ queued below whole last, m.stack = .updating index queued :: below →
      Machine.Above below.length m whole last → last.stack.length ≤ below.length →
      ∀ frame ∈ last.stack, frame.isLoop index = false) ∧
    ∀ next, m.asks index = true → (∀ frame ∈ m.stack, frame.isLoop index = false) → m.step? = some next →
      next.reads index = true := by
  have sound := course.sound fresh
  have earlier : ∀ passed ∈ past, passed.raises (fun _ => true) = false ∧ passed.balks = false :=
    fun passed member => calm passed (List.mem_cons_of_mem _ member)
  have contained := course.contained fresh earlier
  refine ⟨fun f next reading failed step => ?_, fun ended => ?_, fun queued below whole last stack path ended frame =>
    path.ready sound stack ended, fun next asking ready step => sound.reads_of_asks step asking ready⟩
  · have own := Machine.isOfSettings_of_not_balks (calm m (List.mem_cons_self ..)).2 reading failed
    have surfaces := sound.surfaces step reading failed own
    refine ⟨fun i => sound.records_step step i fun _ => ⟨f, failed⟩,
      fun frame => sound.silent_of_surfaces surfaces, surfaces, ?_⟩
    intro above frame below whole last stack endures path ended calm
    obtain ⟨_, ⟨above', frame', shape, _⟩ | ⟨_, answered⟩⟩ := path.answers sound contained stack endures calm
    · rw [shape] at ended
      simp only [List.length_append, List.length_cons] at ended
      omega
    · exact answered
  · obtain ⟨same, _⟩ := course.failures_told fresh earlier index
    have none : m.arrives? index = none := by simp [Machine.arrives?, ended]
    rw [same, none]
    rfl

/-- A live record with someone who listens for failures. -/
def heardSession : List Machine × Machine :=
  (({} : World).doing .openLive).play 40 [] [.onFailure "listening" []]

/-- The first steps of a change of a setting of the record. -/
def heardChange (name : String) (value : Value) (fuel : Nat) : List Machine × Machine :=
  heardSession.2.begin fuel heardSession.1 (.update ("CMakeLite.override." ++ name) value)

theorem course_heardChange (name : String) (value : Value) (fuel : Nat) :
    Course {} (heardChange name value fuel).1 (heardChange name value fuel).2 := by
  have ended : heardSession.2.stack.isEmpty = true := rfl
  exact ((@Course.start {} .openLive).play 40 [.onFailure "listening" []]).begin ended fuel _

/-- A pattern that cannot be used, put in force by a change, is told of once. -/
theorem failed_reading_told :
    (∃ past m f next, Course {} past m ∧ m.reads 0 = true ∧ m.world.reading = .error f ∧ m.step? = some next ∧
      (∀ frame ∈ next.stack, frame.tellsChange 0 = false) ∧ m.Surfaces 0 f next) ∧
    ∃ past m, Course {} past m ∧ m.stack = [] ∧ (past.filterMap (Machine.fails? 0)).length = 1 ∧
      past.filterMap (Machine.fires? 0) = past.filterMap (Machine.fails? 0) := by
  constructor
  · have course := course_heardChange "filterCompilerArgs" (.text "(") 2
    have facts := course.failed_reading World.fresh_empty (by decide +kernel) 0
    generalize same : (heardChange "filterCompilerArgs" (.text "(") 2).2 = m at course facts
    have reading : m.reads 0 = true := by rw [← same]; decide +kernel
    have fails : m.world.reading.toOption.isNone = true := by rw [← same]; decide +kernel
    have going : m.step?.isSome = true := by rw [← same]; decide +kernel
    obtain ⟨next, step⟩ := Option.isSome_iff_exists.mp going
    cases failed : m.world.reading with
    | ok r => simp [failed, Except.toOption] at fails
    | error f =>
      obtain ⟨_, silent, surfaces, _⟩ := facts.1 f next reading failed step
      exact ⟨_, m, f, next, course, reading, failed, step, silent, surfaces⟩
  · have course := course_heardChange "filterCompilerArgs" (.text "(") 20
    have facts := course.failed_reading World.fresh_empty (by decide +kernel) 0
    have ended : (heardChange "filterCompilerArgs" (.text "(") 20).2.stack.isEmpty = true := by decide +kernel
    exact ⟨_, _, course, List.isEmpty_iff.mp ended, by decide +kernel, facts.2.1 (List.isEmpty_iff.mp ended)⟩

/-- Where a setting of the wrong kind is too long to be described, no handler fails and no
pattern is refused, but the change fails and those who listen for failures are told
nothing. -/
theorem failed_reading_untold : ∃ past m whole last, Course {} past m ∧ m.reads 0 = true ∧
    (m.fails? 0).isSome = true ∧ Machine.Above 0 m whole last ∧ last.stack = [] ∧
    (∀ passed ∈ whole ++ past, passed.raises (fun _ => true) = false) ∧
    (last.world.live 0).closed = false ∧ (∃ f, last.mode = .failing f) ∧
    ∀ passed ∈ whole, (passed.fires? 0).isNone = true := by
  have course := course_heardChange "cppStandard" (.scalar (.int (10 ^ digitLimit))) 2
  have path := (@Machine.Above.start 0
    (heardChange "cppStandard" (.scalar (.int (10 ^ digitLimit))) 2).2).back 20
  refine ⟨_, _, _, _, course, by decide +kernel, by decide +kernel, path, ?_, by decide +kernel, by decide +kernel, ?_,
    by decide +kernel⟩
  · exact List.isEmpty_iff.mp (by decide +kernel)
  · generalize same : (Machine.back 0 20 [] _).2 = last
    have fails : (match last.mode with
        | .failing _ => true
        | .answered _ => false) = true := by rw [← same]; decide +kernel
    cases mode : last.mode with
    | failing f => exact ⟨f, rfl⟩
    | answered v => simp [mode] at fails

end LayeredSettings

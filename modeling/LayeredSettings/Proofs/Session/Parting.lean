import LayeredSettings.Proofs.Session.Announcement
import LayeredSettings.Proofs.Session.Registry

namespace LayeredSettings

namespace World

variable {w : World}

/-- Each live record follows the settings through a handle of its own. -/
def Followed (w : World) : Prop :=
  ∀ index < w.lives.length, ∃ h, w.handles[(w.live index).watch]? = some h ∧
    h.holding.subject = some (.settings, some index)

theorem Followed.not_alone (followed : w.Followed) {index : Nat} (bound : index < w.lives.length) {released : Bool}
    {name : Option String} {parting : List Action} :
    w.handles[(w.live index).watch]? ≠ some ⟨released, .alone name parting⟩ := by
  obtain ⟨h, found, own⟩ := followed index bound
  intro there
  cases there.symm.trans found
  cases own

end World

namespace Machine

variable {m next : Machine}

theorem Sound.followed_step (sound : m.Sound) (step : m.step? = some next) (followed : m.world.Followed) :
    next.world.Followed := by
  intro index bound
  by_cases old : index < m.world.lives.length
  · obtain ⟨h, found, own⟩ := followed index old
    obtain ⟨later, there, lasts⟩ := (rewires_step step).lasts found
    rw [sound.watch_step step old]
    exact ⟨later, there, lasts.subject.trans own⟩
  · have made := makes_of_longer step (by omega)
    rw [made, World.length_makeLive] at bound
    obtain rfl : index = m.world.lives.length := by omega
    refine ⟨⟨(m.world.registry .settings).closed, .subscription .settings (.live m.world.lives.length)⟩, ?_, rfl⟩
    rw [made, World.live_makeLive, if_pos rfl, World.getElem?_makeLive]
    exact if_pos rfl

/-- The handle of no signal that the step to come releases: what is to be done on its release is
done next. -/
def parts? (m : Machine) : Option Nat :=
  m.releases?.filter fun handle =>
    match m.world.handles[handle]? with
    | some ⟨false, .alone ..⟩ => true
    | _ => false

theorem parts_iff {handle : Nat} : m.parts? = some handle ↔ m.releases? = some handle ∧
    ∃ name parting, m.world.handles[handle]? = some ⟨false, .alone name parting⟩ := by
  rw [parts?, Option.filter_eq_some_iff]
  refine and_congr_right fun _ => ?_
  cases found : m.world.handles[handle]? with
  | none => simp
  | some h =>
    obtain ⟨released, holding⟩ := h
    cases released <;> cases holding <;> simp

/-- A handle of no signal is released once the step has come, and what is to be done then is done
next. -/
theorem Sound.parts_step (sound : m.Sound) (followed : m.world.Followed) (step : m.step? = some next) {handle : Nat}
    {name : Option String} {parting : List Action}
    (found : m.world.handles[handle]? = some ⟨false, .alone name parting⟩) (releases : m.releases? = some handle) :
    next.world = m.world.release handle ∧
      (parting ≠ [] → ∃ ending rest, next.stack = .actions parting :: .ending ending :: rest) := by
  have actions : m.world.parting handle = parting := World.parting_of_some found
  have letGo (mode : Mode) (rest : List Frame) :
      (m.world.letGo handle mode).world = m.world.release handle ∧ (parting ≠ [] →
        ∃ ending below, (m.world.letGo handle mode).frames ++ rest = .actions parting :: .ending ending :: below) := by
    rcases m.world.letGo_cases handle mode with ⟨none, same⟩ | ⟨_, same⟩
    · rw [same]
      exact ⟨rfl, fun some => absurd (actions.symm.trans none) some⟩
    · rw [same, actions]
      exact ⟨rfl, fun _ => ⟨mode, rest, rfl⟩⟩
  have watched {index : Nat} (bound : index < m.world.lives.length) (own : (m.world.live index).watch = handle) :
      False := by
    rw [← own] at found
    exact followed.not_alone bound found
  cases moves step with
  | @act w v action rest below outcome performed _ =>
    subst performed
    cases action with
    | release name =>
      simp only [releases?, World.releases?] at releases
      simp only [World.perform, World.forHandle, releases]
      exact letGo _ _
    | closeLive =>
      simp only [releases?, World.releases?, Option.map_eq_some_iff] at releases
      obtain ⟨index, current, own⟩ := releases
      exact (watched (sound.tables.present current) own).elim
    | _ => simp [releases?, World.releases?] at releases
  | left | unmade | unleft =>
    exact (watched (sound.fits _ (List.mem_cons_self ..)) (Option.some.inj releases)).elim
  | released none | dropReleasing none =>
    cases releases
    exact ⟨rfl, fun some => absurd (actions.symm.trans none) some⟩
  | parted | interrupted =>
    cases releases
    rw [actions]
    exact ⟨rfl, fun _ => ⟨_, _, rfl⟩⟩
  | _ => simp [releases?] at releases

/-- What has been closed or released is so for good. -/
theorem Onward.gone {first : Machine} {during : List Machine} (path : first.Onward during m) :
    (∀ signal, (first.world.registry signal).closed = true → (m.world.registry signal).closed = true) ∧
      ∀ handle < first.world.nextHandle, first.world.isReleased handle = true → m.world.isReleased handle = true := by
  induction path with
  | start => exact ⟨fun _ => id, fun _ _ => id⟩
  | act _ _ _ ih => exact ih
  | step path step ih =>
    obtain ⟨closed, released⟩ := ih
    have rewires := rewires_step step
    exact ⟨fun signal before => rewires.closed (closed signal before), fun handle there before =>
      rewires.isReleased (Nat.lt_of_lt_of_le there path.grows.handles) (released handle there before)⟩

end Machine

namespace Course

variable {start : World} {past : List Machine} {m : Machine}

theorem exact_tables (course : Course start past m) (fresh : start.Fresh) :
    m.world.Exact ∧ m.world.Shut ∧ m.world.Followed := by
  induction course with
  | start action =>
    refine ⟨fresh.exact, fun signal closed => ?_, fun index bound => ?_⟩
    · simp [World.doing, fresh.registry]
    · simp [World.doing, fresh.lives] at bound
  | act action _ _ ih => exact ih
  | step course step ih =>
    obtain ⟨exact, shut, followed⟩ := ih
    have rewires := Machine.rewires_step step
    exact ⟨rewires.exact exact, rewires.shut exact shut, (course.sound fresh).followed_step step followed⟩

/-- What was to be done on the release of a handle has been begun once at most, and only where the
handle has been released. -/
theorem parted (course : Course start past m) (fresh : start.Fresh) : (past.filterMap Machine.parts?).Nodup ∧
    ∀ handle ∈ past.filterMap Machine.parts?, handle < m.world.nextHandle ∧ m.world.isReleased handle = true := by
  induction course with
  | start action => simp
  | @act past m action course ended ih =>
    have none : m.parts? = none := by
      have idle : m.releases? = none := by
        unfold Machine.releases?
        split <;> simp_all
      simp [Machine.parts?, idle]
    rw [List.filterMap_cons_none none]
    exact ih
  | @step past m next course step ih =>
    obtain ⟨once, before⟩ := ih
    have rewires := Machine.rewires_step step
    have kept : ∀ handle ∈ past.filterMap Machine.parts?,
        handle < next.world.nextHandle ∧ next.world.isReleased handle = true := by
      intro handle member
      obtain ⟨there, released⟩ := before handle member
      exact ⟨Nat.lt_of_lt_of_le there rewires.grows.handles, rewires.isReleased there released⟩
    cases parts : m.parts? with
    | none =>
      rw [List.filterMap_cons_none parts]
      exact ⟨once, kept⟩
    | some handle =>
      rw [List.filterMap_cons_some parts]
      obtain ⟨releases, name, parting, found⟩ := Machine.parts_iff.mp parts
      have first : handle ∉ past.filterMap Machine.parts? := by
        intro member
        have released := (before handle member).2
        simp [World.isReleased, found] at released
      obtain ⟨_, _, followed⟩ := course.exact_tables fresh
      obtain ⟨after, _⟩ := (course.sound fresh).parts_step followed step found releases
      have there := (List.getElem?_eq_some_iff.mp found).1
      refine ⟨List.nodup_cons.mpr ⟨first, once⟩, fun other member => ?_⟩
      rcases List.mem_cons.mp member with rfl | earlier
      · refine ⟨Nat.lt_of_lt_of_le there rewires.grows.handles, ?_⟩
        simp [after, World.isReleased, World.getElem?_release, found]
      · exact kept other earlier

end Course

/-- A subscription is in the table of its signal exactly while it has not been released, so that
the signal has as many subscribers as there are subscriptions to it not released; a closed
signal has none for good, and what has been released stays released. What is to be done on
the release of a handle of no signal is begun once at most, in the step that releases it,
whatever is done by it and by what else goes on. -/
theorem Course.registry_exact {start : World} {past : List Machine} {m : Machine} (course : Course start past m)
    (fresh : start.Fresh) :
    (∀ handle released signal listener, m.world.handles[handle]? = some ⟨released, .subscription signal listener⟩ →
      (released = false ↔ handle ∈ (m.world.registry signal).handles)) ∧
    (∀ signal, (m.world.registry signal).handles = m.world.handles.findIdxs (Handle.listens signal) ∧
      (m.world.registry signal).handles.length = m.world.handles.countP (Handle.listens signal)) ∧
    (∀ during later, m.Onward during later →
      (∀ signal, (m.world.registry signal).closed = true →
        (later.world.registry signal).closed = true ∧ (later.world.registry signal).handles.length = 0) ∧
      ∀ handle < m.world.nextHandle, m.world.isReleased handle = true → later.world.isReleased handle = true) ∧
    ((m :: past).filterMap Machine.parts?).Nodup ∧
    ∀ handle name parting, m.world.handles[handle]? = some ⟨false, .alone name parting⟩ →
      ∀ next, m.step? = some next →
        m.parts? ≠ some handle ∧ next.world.handles[handle]? = some ⟨false, .alone name parting⟩ ∨
        m.parts? = some handle ∧ next.world.handles[handle]? = some ⟨true, .alone name parting⟩ ∧
          (parting ≠ [] → ∃ ending rest, next.stack = .actions parting :: .ending ending :: rest) := by
  obtain ⟨exact, shut, followed⟩ := course.exact_tables fresh
  have sound := course.sound fresh
  refine ⟨fun handle released signal listener found => ?_, fun signal => ?_, fun during later path => ?_, ?_, ?_⟩
  · rw [exact, found]
    constructor
    · rintro rfl
      exact ⟨listener, rfl⟩
    · rintro ⟨_, same⟩
      cases same
      rfl
  · rw [exact.handles_eq sound.tables, List.length_findIdxs]
    exact ⟨rfl, rfl⟩
  · obtain ⟨closed, released⟩ := path.gone
    obtain ⟨_, shut, _⟩ := (course.onward path).exact_tables fresh
    refine ⟨fun signal before => ⟨closed signal before, ?_⟩, released⟩
    rw [shut signal (closed signal before)]
    rfl
  · cases moved : m.step? with
    | none =>
      have ended := Machine.step?_eq_none_iff.mp moved
      have once := ((course.act .keys ended).parted fresh).1
      exact once
    | some next => exact ((course.step moved).parted fresh).1
  · intro handle name parting found next step
    by_cases releases : m.releases? = some handle
    · obtain ⟨after, doing⟩ := sound.parts_step followed step found releases
      refine .inr ⟨Machine.parts_iff.mpr ⟨releases, name, parting, found⟩, ?_, doing⟩
      rw [after, World.getElem?_release, if_pos rfl, found]
      rfl
    · refine .inl ⟨fun parts => releases (Machine.parts_iff.mp parts).1, ?_⟩
      exact (Machine.rewires_step step).alone exact found releases

/-- A handle of no signal on whose release it is released once more and something fails, a
handler that releases it in the middle of its body, and the end of the signal. -/
def partingSession : List Machine × Machine :=
  (({} : World).doing (.subscribe "a" [[.release "s"]])).play 60 []
    [.holdFor "s" true [.release "s", .fail .nullInPath], .attempt [.within "s" [.fire .null]], .closeSignal]

/-- The handle is released in a handler called in its own body, and what fails then comes out of that body,
which does not release it again. Whoever subscribes later is never told anything. -/
theorem registry_exact_parted : ∃ past m during later, Course {} past m ∧ m.Onward during later ∧
    (m :: past).filterMap Machine.parts? = [1] ∧ ((m :: past).filterMap Machine.parts?).Nodup ∧
    (m.world.registry .plain).handles = m.world.handles.findIdxs (Handle.listens .plain) ∧
    (later.world.registry .plain).closed = true ∧ (later.world.registry .plain).handles.length = 0 ∧
    later.world.handles.length = 3 ∧ later.world.isReleased 0 = true := by
  have course : Course {} partingSession.1 partingSession.2 := (Course.start _).play 60 _
  have path := (Machine.Onward.start : partingSession.2.Onward [] _).play 60 [.subscribe "b" [], .fire .null]
  have now : (partingSession.2 :: partingSession.1).filterMap Machine.parts? = [1] ∧
      (partingSession.2.world.registry .plain).closed = true ∧ 0 < partingSession.2.world.nextHandle ∧
      partingSession.2.world.isReleased 0 = true ∧
      (partingSession.2.play 60 [] [.subscribe "b" [], .fire .null]).2.world.handles.length = 3 := by
    decide +kernel
  obtain ⟨begun, closed, there, released, made⟩ := now
  obtain ⟨_, tables, gone, once, _⟩ := course.registry_exact World.fresh_empty
  obtain ⟨shut, stay⟩ := gone _ _ path
  exact ⟨_, _, _, _, course, path, begun, once, (tables .plain).1, (shut .plain closed).1, (shut .plain closed).2, made,
    stay 0 there released⟩

end LayeredSettings

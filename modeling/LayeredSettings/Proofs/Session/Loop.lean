import LayeredSettings.Proofs.Session.Stack

namespace LayeredSettings

/-- Whether a live record follows the settings through a handle. -/
def World.follows (w : World) (handle index : Nat) : Bool :=
  match w.handles[handle]? with
  | some ⟨false, .subscription _ (.live i)⟩ => i = index
  | _ => false

theorem World.follows_iff {w : World} {handle index : Nat} : w.follows handle index = true ↔
    ∃ signal, w.handles[handle]? = some ⟨false, .subscription signal (.live index)⟩ := by
  unfold follows
  split
  · next signal i found => simp [found]
  · next other =>
    constructor
    · simp
    · rintro ⟨signal, found⟩
      exact absurd found (other signal index)

/-- A live record that is made is asked for at once. -/
theorem World.live_makeLive (w : World) (index : Nat) : w.makeLive.1.live index =
    if index = w.lives.length then Live.asked { watch := w.nextHandle } else w.live index := by
  have opened : (w.withFollower.live w.lives.length).closed = false := by
    rw [live_withFollower, if_pos rfl]
  have live := live_setLive w.withFollower w.lives.length index (w.withFollower.live w.lives.length).asked
  rw [makeLive_eq, requestUpdate_of_open opened]
  refine live.trans ?_
  rw [live_withFollower, live_withFollower, if_pos rfl, length_withFollower]
  by_cases same : index = w.lives.length
  · rw [if_pos ⟨same.symm, by omega⟩, if_pos same]
  · rw [if_neg (fun own => same own.1.symm), if_neg same, if_neg same]

/-- A live record that is made follows the settings through the next handle. -/
theorem World.getElem?_makeLive (w : World) (handle : Nat) : w.makeLive.1.handles[handle]? =
    if handle = w.nextHandle then
      some ⟨(w.registry .settings).closed, .subscription .settings (.live w.lives.length)⟩
    else w.handles[handle]? := by
  have opened : (w.withFollower.live w.lives.length).closed = false := by
    rw [live_withFollower, if_pos rfl]
  rw [makeLive_eq, requestUpdate_of_open opened]
  exact w.getElem?_withFollower handle

@[simp] theorem World.length_makeLive (w : World) : w.makeLive.1.lives.length = w.lives.length + 1 := by
  simp [makeLive_eq, length_withFollower]

namespace Machine

/-- Whether the loop that updates a live record is innermost. -/
def atLoop (index : Nat) (m : Machine) : Bool :=
  match m.stack with
  | frame :: _ => frame.isLoop index
  | [] => false

/-- Whether the step to come reads a live record. -/
def reads (index : Nat) (m : Machine) : Bool :=
  match m.mode with
  | .answered _ => m.atLoop index && (m.world.live index).pending && !(m.world.live index).closed
  | .failing _ => false

theorem reads_loop {w : World} {v : Value} {i index : Nat} {queued : Bool} {rest : List Frame} :
    reads index ⟨w, .answered v, .updating i queued :: rest⟩ = true ↔
      i = index ∧ (w.live index).pending = true ∧ (w.live index).closed = false := by
  simp [reads, atLoop, Frame.isLoop, and_assoc]

theorem reads_iff {m : Machine} {index : Nat} : m.reads index = true ↔ ∃ v queued rest, m.mode = .answered v ∧
    m.stack = .updating index queued :: rest ∧ (m.world.live index).pending = true ∧
      (m.world.live index).closed = false := by
  obtain ⟨w, mode, stack⟩ := m
  cases mode with
  | failing f => simp [reads]
  | answered v =>
    cases stack with
    | nil => simp [reads, atLoop]
    | cons frame rest =>
      cases frame with
      | updating i queued =>
        rw [reads_loop]
        constructor
        · rintro ⟨rfl, due, opened⟩
          exact ⟨v, queued, rest, rfl, rfl, due, opened⟩
        · rintro ⟨_, _, _, _, same, due, opened⟩
          cases same
          exact ⟨rfl, due, opened⟩
      | actions | attempting | notify | following | making | leaving | releasing | ending =>
        simp [reads, atLoop, Frame.isLoop]

/-- Whether the step to come asks for an open live record to be read, by an action or
because it follows the settings. -/
def asks (index : Nat) (m : Machine) : Bool :=
  !(m.world.live index).closed &&
    match m.mode, m.stack with
    | .answered _, .actions (.refresh :: _) :: _ => m.world.current = some index
    | .answered _, .notify _ (.keys keys) (handle :: _) :: _ =>
      m.world.follows handle index && affects keys toolSection
    | _, _ => false

/-- What a step does to a live record. -/
inductive Touch (index : Nat) (m next : Machine) : Prop
  | kept :
      m.asks index = false → m.atLoop index = false →
      next.world.live index = m.world.live index → Touch index m next
  | asked :
      m.asks index = true → m.atLoop index = false →
      next.world.live index = (m.world.live index).asked → Touch index m next
  | made :
      m.world.lives.length = index →
      next.world.live index = Live.asked { watch := m.world.nextHandle } → Touch index m next
  | closed :
      m.asks index = false → m.atLoop index = false →
      next.world.live index = { m.world.live index with closed := true } → Touch index m next
  | read {r : OverrideRecord} :
      m.reads index = true → m.world.reading = .ok r →
      next.world.live index = (m.world.live index).read r → Touch index m next
  | reported {f : Failure} {rest : List Frame} :
      m.reads index = true → m.world.reading = .error f → m.stack = .updating index true :: rest →
      next.world.live index = (m.world.live index).taken → Touch index m next
  | ended {queued : Bool} {rest : List Frame} :
      m.stack = .updating index queued :: rest →
      (m.reads index = true → ∃ f, m.world.reading = .error f) →
      next.world.live index = { m.world.live index with updating := false, pending := false } →
      Touch index m next

theorem Touch.of_lives {index : Nat} {m next : Machine} (asks : m.asks index = false)
    (atLoop : m.atLoop index = false) (lives : next.world.lives = m.world.lives) : Touch index m next :=
  .kept asks atLoop (by simp only [World.live, lives])

variable {w v : World} {mode mode' : Mode} {rest stack frames : List Frame}

theorem Touch.of_closeLive {frame : Frame} {index i : Nat}
    (asks : asks index ⟨w, mode, frame :: rest⟩ = false) (atLoop : frame.isLoop index = false) :
    Touch index ⟨w, mode, frame :: rest⟩ ⟨w.closeLive i, mode', stack⟩ := by
  have live := w.live_closeLive i index
  split at live
  · next same =>
    obtain ⟨rfl, _⟩ := same
    exact .closed asks atLoop live
  · exact .kept asks atLoop live

theorem Touch.of_makeLive {action : Action} {actions : List Action} {index : Nat} {v : Value}
    (asks : Machine.asks index ⟨w, .answered v, .actions (action :: actions) :: rest⟩ = false) :
    Touch index ⟨w, .answered v, .actions (action :: actions) :: rest⟩ ⟨w.makeLive.1, mode', stack⟩ := by
  have live := w.live_makeLive index
  split at live
  · next same => exact .made same.symm live
  · exact .kept asks rfl live

theorem Touch.of_requestUpdate {frame : Frame} {index i : Nat} (bound : i < w.lives.length)
    (asks : asks index ⟨w, mode, frame :: rest⟩ = (decide (i = index) && !(w.live index).closed))
    (atLoop : frame.isLoop index = false) :
    Touch index ⟨w, mode, frame :: rest⟩ ⟨(w.requestUpdate i).1, mode', stack⟩ := by
  cases opened : (w.live i).closed with
  | true =>
    rw [World.requestUpdate_of_closed opened]
    refine .kept ?_ atLoop rfl
    rw [asks]
    by_cases same : i = index
    · simp [← same, opened]
    · simp [same]
  | false =>
    rw [World.requestUpdate_of_open opened]
    have live := World.live_setLive w i index (w.live i).asked
    by_cases same : i = index
    · subst same
      refine .asked (by simp [asks, opened]) atLoop (live.trans ?_)
      rw [if_pos ⟨rfl, bound⟩]
    · refine .kept (by simp [asks, same]) atLoop (live.trans ?_)
      rw [if_neg (by simp [same])]

theorem Touch.of_endUpdate {index i : Nat} {queued : Bool} (sound : Sound ⟨w, mode, .updating i queued :: rest⟩)
    (log : List Entry) (reads : reads i ⟨w, mode, .updating i queued :: rest⟩ = true → ∃ f, w.reading = .error f) :
    Touch index ⟨w, mode, .updating i queued :: rest⟩ ⟨(w.endUpdate i).withLog log, mode', stack⟩ := by
  have bound : i < w.lives.length := sound.fits _ (List.mem_cons_self ..)
  have live : ((w.endUpdate i).withLog log).live index = _ := World.live_setLive w i index _
  by_cases same : i = index
  · subst same
    refine .ended rfl reads (live.trans ?_)
    rw [if_pos ⟨rfl, bound⟩]
  · refine .kept ?_ (by simp [Machine.atLoop, Frame.isLoop, same]) (live.trans ?_)
    · cases mode <;> simp [asks]
    · rw [if_neg (by simp [same])]

theorem asks_of_action {action : Action} {actions : List Action} {v : Value} (other : action ≠ .refresh)
    (index : Nat) : asks index ⟨w, .answered v, .actions (action :: actions) :: rest⟩ = false := by
  unfold asks
  cases action <;> simp at other ⊢

theorem Touch.of_deed {action : Action} {actions : List Action} {v : Value} {outcome : Outcome}
    (sound : Sound ⟨w, .answered v, .actions (action :: actions) :: rest⟩) (performed : w.perform action = outcome)
    (deed : w.Deed action outcome) (index : Nat) :
    Touch index ⟨w, .answered v, .actions (action :: actions) :: rest⟩
      ⟨outcome.world, outcome.mode, outcome.frames ++ .actions actions :: rest⟩ := by
  by_cases refresh : action = .refresh
  · subst refresh performed
    cases current : w.current with
    | none =>
      simp only [World.perform, World.forCurrent, current]
      exact .kept (by simp [asks, current]) rfl rfl
    | some i =>
      simp only [World.perform, World.forCurrent, current]
      refine .of_requestUpdate (sound.tables.present current) ?_ rfl
      simp [asks, current, Bool.and_comm]
  · have quiet : asks index ⟨w, .answered v, .actions (action :: actions) :: rest⟩ = false :=
      asks_of_action refresh index
    cases deed with
    | quiet mode' _ alike => exact .of_lives quiet rfl alike.lives
    | fire | attempt | within => exact .kept quiet rfl rfl
    | letGo => exact .of_lives quiet rfl (w.lives_release _)
    | @change u layers puts alike _ =>
      refine .of_lives quiet rfl ?_
      rcases u.change_cases layers with ⟨_, same⟩ | ⟨_, same⟩ <;> rw [same] <;> exact alike.lives
    | close _ current => exact .of_closeLive quiet rfl
    | refresh own => exact absurd own refresh
    | make | makeWith => exact .of_makeLive quiet

/-- A live record is changed only by a request, by its loop, and by being made and
closed. -/
theorem live_step {m next : Machine} (sound : m.Sound) (step : m.step? = some next) (index : Nat) :
    Touch index m next := by
  cases moves step with
  | done | attempted | told | followed | made | dropActions | caught | dropNotify | reportFollowed | dropFollowed
  | ended | dropEnding => exact .kept (by simp [asks]) rfl rfl
  | act performed deed => exact .of_deed sound performed deed index
  | @pass w v signal event handle handles rest listening other =>
    refine .kept ?_ rfl rfl
    cases event with
    | keys keys =>
      simp only [asks]
      cases follows : w.follows handle index with
      | false => simp
      | true =>
        obtain ⟨source, found⟩ := World.follows_iff.mp follows
        rcases listening (by simp [World.isReleased, found]) _ _ _ found with closed | deaf
        · simp [closed]
        · simp [deaf keys rfl]
    | value | record | failure => simp [asks]
  | @call w v signal event handle handles rest released source name sections calls live found =>
    refine .of_lives ?_ rfl (w.alike_call event found).lives
    cases event <;> simp [asks, World.follows, found]
  | @follow w v signal keys handle handles rest released source i live found opened affected =>
    refine .of_requestUpdate (sound.tables.watching found).2.1 ?_ rfl
    have unreleased : released = false := by simpa [World.isReleased, found] using live
    simp [asks, World.follows, found, affected, unreleased, Bool.and_comm]
  | @read w v i queued rest r log due opened own =>
    have live := w.live_setLive i index ((w.live i).read r)
    by_cases same : i = index
    · subst same
      rw [if_pos ⟨rfl, World.lt_of_pending due⟩] at live
      exact .read (by simp [reads, atLoop, Frame.isLoop, due, opened]) own live
    · rw [if_neg (by simp [same])] at live
      exact .kept (by simp [asks]) (by simp [atLoop, Frame.isLoop, same]) live
  | @report w v i rest f log due opened own told =>
    have live := w.live_setLive i index (w.live i).taken
    by_cases same : i = index
    · subst same
      rw [if_pos ⟨rfl, World.lt_of_pending due⟩] at live
      exact .reported (by simp [reads, atLoop, Frame.isLoop, due, opened]) own rfl live
    · rw [if_neg (by simp [same])] at live
      exact .kept (by simp [asks]) (by simp [atLoop, Frame.isLoop, same]) live
  | @refuse w v i queued rest f log due opened own told =>
    exact .of_endUpdate sound log fun _ => ⟨f, own⟩
  | @finish w v i queued rest idle =>
    refine .of_endUpdate sound w.log fun reading => ?_
    obtain ⟨_, due, opened⟩ := reads_loop.mp reading
    rw [idle due] at opened
    cases opened
  | @dropUpdate w f i queued rest => exact .of_endUpdate sound w.log (by simp [reads])
  | left | unmade | unleft => exact .of_closeLive (by simp [asks]) rfl
  | released | parted | dropReleasing | interrupted => exact .of_lives (by simp [asks]) rfl (World.lives_release ..)

/-- A loop begins with a reading. -/
theorem reads_of_begun {m next : Machine} (sound : m.Sound) (step : m.step? = some next) {index : Nat}
    {below : List Frame} (begun : next.stack = .updating index false :: below) : next.reads index = true := by
  have popped {frame : Frame} {rest : List Frame} (stack : m.stack = frame :: rest)
      (same : rest = .updating index false :: below) : False := by
    have seated := sound.seated
    rw [stack, same] at seated
    exact frame.not_sits_begun index below seated.1
  have requested {w : World} {i : Nat} {rest : List Frame} (bound : i < w.lives.length)
      (other : rest ≠ .updating index false :: below)
      (begun : (w.requestUpdate i).2 ++ rest = .updating index false :: below) (v : Value) :
      reads index ⟨(w.requestUpdate i).1, .answered v, (w.requestUpdate i).2 ++ rest⟩ = true := by
    cases opened : (w.live i).closed with
    | true =>
      rw [World.requestUpdate_of_closed opened] at begun
      exact absurd begun other
    | false =>
      rw [World.requestUpdate_of_open opened] at begun ⊢
      cases running : (w.live i).updating with
      | true =>
        rw [running] at begun
        exact absurd begun other
      | false =>
        simp only [running, Bool.false_eq_true, if_false, List.singleton_append, List.cons.injEq,
          Frame.updating.injEq, and_true] at begun
        obtain ⟨rfl, _⟩ := begun
        simp [reads, atLoop, Frame.isLoop, World.live_setLive_self bound, Live.asked, opened]
  have told {w : World} {signal : Signal} {event : Event} {rest : List Frame}
      (other : rest ≠ .updating index false :: below)
      (begun : w.notification signal event ++ rest = .updating index false :: below) : False := by
    simp only [World.notification] at begun
    split at begun
    · exact other begun
    · cases begun
  cases moves step with
  | act performed deed =>
    cases deed with
    | quiet => cases begun
    | fire => exact (told (by simp) begun).elim
    | attempt | letGo | within => cases begun
    | @change v layers _ _ _ =>
      rcases v.change_cases layers with ⟨_, same⟩ | ⟨_, same⟩
      · rw [same] at begun
        cases begun
      · rw [same] at begun
        simp only at begun
        split at begun
        · cases begun
        · exact (told (by simp) begun).elim
    | close => cases begun
    | refresh _ current => exact requested (sound.tables.present current) (by simp) begun _
    | make =>
      rw [World.makeLive_eq] at begun ⊢
      simp only [List.append_assoc] at begun ⊢
      exact requested (by simp [World.length_withFollower]) (by simp) begun _
    | makeWith =>
      rw [World.makeLive_eq] at begun ⊢
      simp only [List.append_assoc] at begun ⊢
      exact requested (by simp [World.length_withFollower]) (by simp) begun _
  | done | attempted | told | refuse | finish | followed | made | left | dropActions | caught | dropNotify
  | dropUpdate | dropFollowed | unmade | unleft | released | ended | dropReleasing | dropEnding =>
    exact (popped rfl begun).elim
  | pass | call | parted | interrupted => cases begun
  | follow _ found _ _ => exact requested (sound.tables.watching found).2.1 (by simp) begun _
  | read | report => exact (told (by simp) begun).elim
  | reportFollowed => exact (told (fun same => popped rfl same) begun).elim

/-- Live records stay, closed or not. -/
theorem length_step {m next : Machine} (step : m.step? = some next) :
    m.world.lives.length ≤ next.world.lives.length := by
  cases moves step with
  | act _ deed =>
    cases deed with
    | quiet _ _ alike => exact Nat.le_of_eq (by rw [alike.lives])
    | fire | attempt | within => exact Nat.le_refl _
    | letGo => exact Nat.le_of_eq (by rw [World.lives_release])
    | @change v layers _ alike _ =>
      rcases v.change_cases layers with ⟨_, same⟩ | ⟨_, same⟩ <;> rw [same] <;>
        exact Nat.le_of_eq (by rw [← alike.lives]; rfl)
    | close => simp
    | refresh => simp
    | make | makeWith => simp
  | call _ found => exact Nat.le_of_eq (by rw [(World.alike_call _ _ found).lives])
  | follow => simp
  | read | report | refuse | finish | dropUpdate => simp [World.withLog, World.endUpdate]
  | left | unmade | unleft => simp
  | released | parted | dropReleasing | interrupted => exact Nat.le_of_eq (by rw [World.lives_release])
  | _ => exact Nat.le_refl _

/-- Where there are more live records after a step, it has made one. -/
theorem makes_of_longer {m next : Machine} (step : m.step? = some next)
    (longer : m.world.lives.length < next.world.lives.length) : next.world = m.world.makeLive.1 := by
  have none {v : World} (same : v.lives.length = m.world.lives.length) (more : m.world.lives.length < v.lives.length) :
      False := by omega
  cases moves step with
  | act _ deed =>
    cases deed with
    | quiet _ _ alike => exact (none (by rw [alike.lives]) longer).elim
    | fire | attempt | within => exact (none rfl longer).elim
    | letGo => exact (none (by simp) longer).elim
    | @change v layers _ alike _ =>
      refine (none ?_ longer).elim
      rcases v.change_cases layers with ⟨_, same⟩ | ⟨_, same⟩ <;> rw [same] <;> exact congrArg List.length alike.lives
    | close => exact (none (by simp) longer).elim
    | refresh => exact (none (by simp) longer).elim
    | make | makeWith => rfl
  | call _ found => exact (none (by rw [(World.alike_call _ _ found).lives]) longer).elim
  | follow => exact (none (by simp) longer).elim
  | read | report | refuse | finish | dropUpdate =>
    exact (none (by simp [World.withLog, World.endUpdate]) longer).elim
  | left | unmade | unleft | released | parted | dropReleasing | interrupted => exact (none (by simp) longer).elim
  | _ => exact (none rfl longer).elim

/-- How a machine comes to fail: the action just begun fails, a reading does, a failure has
come through a frame, or one goes on after what was done on a release. -/
inductive Fails (m next : Machine) (f : Failure) : Prop
  | acted {action : Action} {actions : List Action} {rest : List Frame} :
      m.stack = .actions (action :: actions) :: rest → next.stack = .actions actions :: rest → Fails m next f
  | refused {index : Nat} {queued : Bool} :
      m.stack = .updating index queued :: next.stack → m.reads index = true → m.world.reading = .error f →
      (queued && f.isOfSettings) = false → Fails m next f
  | passed {frame : Frame} :
      m.mode = .failing f → m.stack = frame :: next.stack →
      (∀ index, frame = .following index → f.isOfSettings = false) → Fails m next f
  | resumed :
      m.stack = .ending (.failing f) :: next.stack → Fails m next f

theorem failing_step {m next : Machine} (step : m.step? = some next) {f : Failure} (failing : next.mode = .failing f) :
    Fails m next f := by
  cases moves step with
  | act _ deed =>
    cases deed with
    | quiet => exact .acted rfl rfl
    | @change v layers =>
      rcases v.change_cases layers with ⟨_, same⟩ | ⟨_, same⟩
      · rw [same] at failing ⊢
        exact .acted rfl rfl
      · rw [same] at failing
        cases failing
    | fire | attempt | close | refresh | make | makeWith | letGo | within => cases failing
  | refuse _ due opened own other =>
    cases failing
    exact .refused rfl (by simp [reads, atLoop, Frame.isLoop, due, opened]) own other
  | dropActions | dropNotify | dropUpdate | unmade | unleft | dropReleasing | dropEnding =>
    cases failing
    exact .passed rfl rfl (by simp)
  | ended =>
    cases failing
    exact .resumed rfl
  | dropFollowed other =>
    cases failing
    exact .passed rfl rfl fun _ _ => other
  | _ => cases failing

section Waiting

variable {m next : Machine} {index : Nat} {queued : Bool} {above below : List Frame}

/-- There is one loop for a live record: while it waits, no other one is innermost. -/
theorem Sound.atLoop_eq_false (sound : m.Sound) (stack : m.stack = above ++ .updating index queued :: below)
    (inside : above ≠ []) : m.atLoop index = false := by
  cases above with
  | nil => exact absurd rfl inside
  | cons top others =>
    have once := sound.loops index
    have own : Frame.isLoop index (.updating index queued) = true := by simp [Frame.isLoop]
    rw [stack] at once
    simp only [List.cons_append, List.countP_cons, List.countP_append, own, if_true] at once
    simp only [atLoop, stack, List.cons_append]
    cases loop : top.isLoop index with
    | false => rfl
    | true =>
      simp only [loop, if_true] at once
      split at once <;> omega

/-- Nothing but the loop for a live record notifies its changes. -/
theorem Sound.silent_below (sound : m.Sound) (above : List Frame)
    (stack : m.stack = above ++ .updating index queued :: below) {frame : Frame} (member : frame ∈ below) :
    frame.tellsChange index = false := by
  have own : Frame.isLoop index (.updating index queued) = true := by simp [Frame.isLoop]
  have once := sound.loops index
  rw [stack] at once
  simp only [List.countP_cons, List.countP_append, own, if_true] at once
  cases tells : frame.tellsChange index with
  | false => rfl
  | true =>
    have seated : Seated below := (stack ▸ sound.seated).of_append.2
    have twice := seated.loop_of_tells member tells
    split at once <;> omega

theorem Sound.lt_of_loop (sound : m.Sound) (above : List Frame)
    (stack : m.stack = above ++ .updating index queued :: below) : index < m.world.lives.length :=
  sound.fits (.updating index queued) (by simp [stack])

/-- A live record that is being updated has a loop. -/
theorem Sound.exists_loop (sound : m.Sound) (running : (m.world.live index).updating = true) :
    ∃ above queued below, m.stack = above ++ .updating index queued :: below := by
  have once := sound.loops index
  rw [if_pos running] at once
  obtain ⟨frame, member, loop⟩ := List.countP_pos_iff.mp (by omega : 0 < m.stack.countP (Frame.isLoop index))
  obtain ⟨above, below, split⟩ := List.append_of_mem member
  cases frame with
  | updating i queued =>
    simp only [Frame.isLoop, decide_eq_true_eq] at loop
    exact ⟨above, queued, below, loop ▸ split⟩
  | actions | attempting | notify | following | making | leaving | releasing | ending => cases loop

/-- A loop that does not go on with a reading ends. -/
theorem pops_of_not_reads (step : m.step? = some next) (stack : m.stack = .updating index queued :: below)
    (idle : m.reads index = false) :
    next.stack = below ∧ ∀ f, m.mode = .failing f → next.mode = .failing f := by
  obtain ⟨w, mode, frames⟩ := m
  simp only at stack
  subst stack
  cases moves step with
  | read _ due opened _ | report _ due opened _ _ =>
    simp [reads, atLoop, Frame.isLoop, due, opened] at idle
  | refuse | finish => exact ⟨rfl, by simp⟩
  | dropUpdate => exact ⟨rfl, by simp⟩

theorem reads_eq_false (elsewhere : m.atLoop index = false) : m.reads index = false := by
  unfold reads
  split <;> simp [elsewhere]

/-- Where its loop is not innermost, a live record remembers whether it has been asked
for. -/
theorem Sound.pending_step (sound : m.Sound) (step : m.step? = some next) (bound : index < m.world.lives.length)
    (elsewhere : m.atLoop index = false) :
    (next.world.live index).pending = ((m.world.live index).pending || m.asks index) := by
  cases live_step sound step index with
  | kept quiet _ same => simp [same, quiet]
  | asked asking _ same => simp [same, asking, Live.asked]
  | made new _ => omega
  | closed quiet _ same => simp [same, quiet]
  | read reading | reported reading => simp [reads_eq_false elsewhere] at reading
  | ended loop => simp [atLoop, loop, Frame.isLoop] at elsewhere

/-- A turn of the loop takes up all that was asked for. -/
theorem Sound.pending_turn (sound : m.Sound) (step : m.step? = some next) (bound : index < m.world.lives.length)
    (here : m.atLoop index = true) : (next.world.live index).pending = false := by
  cases live_step sound step index with
  | kept _ elsewhere | asked _ elsewhere | closed _ elsewhere => simp [here] at elsewhere
  | made new _ => omega
  | read _ _ same | reported _ _ _ same | ended _ _ same => simp [same, Live.read]

/-- A closed record stays closed. -/
theorem Sound.open_before (sound : m.Sound) (step : m.step? = some next)
    (opened : (next.world.live index).closed = false) : (m.world.live index).closed = false := by
  cases live_step sound step index with
  | kept _ _ same | asked _ _ same | read _ _ same | reported _ _ _ same | ended _ _ same =>
    simpa [same, Live.asked, Live.read] using opened
  | closed _ _ same => simp [same] at opened
  | made new _ =>
    rw [World.live_of_le (Nat.le_of_eq new)]
    rfl

end Waiting

namespace Above

variable {depth : Nat} {first m : Machine} {during : List Machine} {index : Nat} {queued : Bool}
  {above below : List Frame}

theorem sound (path : Above depth first during m) (start : first.Sound) : m.Sound := by
  induction path with
  | start => exact start
  | step _ _ step ih => exact ih.step step

theorem sound_of_mem (path : Above depth first during m) (start : first.Sound) {passed : Machine}
    (member : passed ∈ during) : passed.Sound := by
  induction path with
  | start => simp at member
  | step path _ _ ih =>
    rcases List.mem_cons.mp member with rfl | earlier
    · exact path.sound start
    · exact ih earlier

/-- On the way back to a loop that waits, no reading takes place and no request is
forgotten. -/
theorem pending (path : Above (below.length + 1) first during m) (start : first.Sound)
    (stack : first.stack = above ++ .updating index queued :: below) :
    (∀ passed ∈ during, passed.reads index = false) ∧
      (m.world.live index).pending = ((first.world.live index).pending || during.any (asks index)) := by
  induction path with
  | start => simp
  | @step past m next path deep step ih =>
    obtain ⟨silent, remembered⟩ := ih
    have here := path.sound start
    obtain ⟨others, shape⟩ := path.suffix _ stack (by simp)
    have inside : others ≠ [] := by
      rintro rfl
      simp [shape] at deep
    refine ⟨?_, ?_⟩
    · intro passed member
      rcases List.mem_cons.mp member with rfl | earlier
      · exact reads_eq_false (here.atLoop_eq_false shape inside)
      · exact silent passed earlier
    · have bound := here.lt_of_loop _ shape
      rw [here.pending_step step bound (here.atLoop_eq_false shape inside), remembered, List.any_cons, Bool.or_assoc,
        Bool.or_comm (past.any _)]

end Above

end Machine

namespace Course

variable {start : World} {past : List Machine} {m : Machine}

theorem reads_of_begun (course : Course start past m) (fresh : start.Fresh) {index : Nat} {below : List Frame}
    (begun : m.stack = .updating index false :: below) : m.reads index = true := by
  cases course with
  | start action => cases begun
  | step course step => exact Machine.reads_of_begun (course.sound fresh) step begun
  | act action _ _ => cases begun

end Course

end LayeredSettings

import LayeredSettings.Proofs.Session.Closing

namespace LayeredSettings

namespace World

variable {before w : World}

/-- Whether a world is that of the making of a live record, begun in another one: nobody but the record
has subscribed to anything since. -/
structure Begun (before w : World) : Prop where
  registry : w.registry = before.withFollower.registry
  handles : w.handles = before.withFollower.handles
  watch : (w.live before.lives.length).watch = before.nextHandle
  opened : (w.live before.lives.length).closed = false

theorem begun_makeLive (w : World) : w.Begun w.makeLive.1 where
  registry := by
    rw [makeLive_eq]
    exact w.withFollower.registry_requestUpdate _
  handles := by
    rw [makeLive_eq]
    exact w.withFollower.handles_requestUpdate _
  watch := by rw [live_makeLive, if_pos rfl]; rfl
  opened := by rw [live_makeLive, if_pos rfl]; rfl

theorem frames_makeLive (w : World) : w.makeLive.2 = [.updating w.lives.length false, .making w.lives.length] := by
  have fresh : w.withFollower.live w.lives.length = { watch := w.nextHandle } := by
    rw [live_withFollower, if_pos rfl]
  rw [makeLive_eq, requestUpdate_of_open (by rw [fresh]), fresh]
  rfl

theorem Begun.of_setLive (begun : before.Begun w) (live : Live) (log : List Entry)
    (watch : live.watch = (w.live before.lives.length).watch)
    (closed : live.closed = (w.live before.lives.length).closed) :
    before.Begun ((w.setLive before.lives.length live).withLog log) := by
  have now : ((w.setLive before.lives.length live).withLog log).live before.lives.length = _ :=
    w.live_setLive before.lives.length before.lives.length live
  refine ⟨begun.registry, begun.handles, ?_, ?_⟩
  · rw [now]
    split
    · exact watch.trans begun.watch
    · exact begun.watch
  · rw [now]
    split
    · exact closed.trans begun.opened
    · exact begun.opened

theorem Begun.of_endUpdate (begun : before.Begun w) (log : List Entry) :
    before.Begun ((w.endUpdate before.lives.length).withLog log) :=
  begun.of_setLive { w.live before.lives.length with updating := false, pending := false } log rfl rfl

theorem Begun.exact (begun : before.Begun w) (exact : before.Exact) : w.Exact := by
  have made : before.Rewires (fun _ => True) before.withFollower := (Rewires.subscribe _ _).trans (.same rfl rfl)
  exact (made.exact exact).of_tables begun.registry begun.handles

/-- The subscribers of the settings but for the live record made last are those before. -/
theorem Sound.remove_withFollower (sound : before.Sound) :
    (before.withFollower.registry .settings).remove before.nextHandle = before.registry .settings := by
  have earlier : (before.registry .settings).handles.filter (· ≠ before.nextHandle) =
      (before.registry .settings).handles :=
    List.filter_eq_self.mpr fun handle member => decide_eq_true (Nat.ne_of_lt (sound.lt_of_registered member))
  rw [registry_withFollower]
  split
  · simp only [Registry.remove, Registry.add, List.filter_append, earlier]
    simp
  · simp only [Registry.remove, earlier]

theorem Begun.settings_closeLive (begun : before.Begun w) (sound : before.Sound) (exact : before.Exact) :
    (w.closeLive before.lives.length).registry .settings = before.registry .settings := by
  rw [(begun.exact exact).settings_closeLive begun.opened, begun.registry, begun.watch, sound.remove_withFollower]

/-- Nobody has subscribed to the changes of a live record that is not there yet. -/
theorem Within.vacant (within : w.Within w.lives.length) (sound : w.Sound) (exact : w.Exact) :
    w.registry (.changes w.lives.length) = {} := by
  have handles : (w.registry (.changes w.lives.length)).handles = [] := by
    refine List.eq_nil_iff_forall_not_mem.mpr fun handle member => ?_
    obtain ⟨listener, found⟩ := (exact _ _).mp member
    have bound := within _ (List.mem_of_getElem? found) w.lives.length
      (Handle.owner_eq_some.mpr (.inr (.inl (by simp [Holding.isTo]))))
    omega
  have closed : (w.registry (.changes w.lives.length)).closed = false := by
    refine Bool.eq_false_iff.mpr fun closed => ?_
    have bound := (sound.heard (.inl closed)).1
    omega
  cases same : w.registry (.changes w.lives.length) with
  | mk first second =>
    rw [same] at handles closed
    simp only at handles closed
    rw [handles, closed]

/-- The record that is being made has nobody to tell of its changes. -/
theorem Begun.notification_eq (begun : before.Begun w) (vacant : before.registry (.changes before.lives.length) = {})
    (event : Event) : w.notification (.changes before.lives.length) event =
      [.notify (.changes before.lives.length) event []] := by
  have here : w.registry (.changes before.lives.length) = {} := by
    rw [begun.registry, registry_withFollower, if_neg (by simp), vacant]
  rw [notification_of_open (by rw [here]), here]

end World

namespace Machine

variable {m next : Machine}

/-- The making of a live record goes on, begun in a world and above a stack: the record is read, those who
listen to it are told, of whom there are none, and its loop ends. -/
inductive Making (before : World) (below : List Frame) : Machine → Prop
  | asked {w mode} : before.Begun w →
      Making before below ⟨w, mode, .updating before.lives.length false :: .making before.lives.length :: below⟩
  | telling {w mode event} : before.Begun w → (w.live before.lives.length).pending = false →
      Making before below ⟨w, mode, .notify (.changes before.lives.length) event [] ::
        .updating before.lives.length true :: .making before.lives.length :: below⟩
  | told {w mode} : before.Begun w → (w.live before.lives.length).pending = false →
      Making before below ⟨w, mode, .updating before.lives.length true :: .making before.lives.length :: below⟩
  | ended {w mode} : before.Begun w → Making before below ⟨w, mode, .making before.lives.length :: below⟩

/-- The making of a live record has come to its end: the record is there, or the subscribers of the
settings are what they were. -/
inductive Made (before : World) (below : List Frame) : Machine → Prop
  | kept {w v} : w.current = some before.lives.length → Made before below ⟨w, .answered v, below⟩
  | dropped {w f} : w.registry .settings = before.registry .settings → Made before below ⟨w, .failing f, below⟩

/-- Whether the step to come makes a live record. -/
def makes (m : Machine) : Bool :=
  match m.mode, m.stack with
  | .answered _, .actions (.openLive :: _) :: _ => true
  | .answered _, .actions (.withLive _ :: _) :: _ => true
  | _, _ => false

variable {before : World} {below : List Frame}

theorem Making.fail (making : Making before below m) (f : Failure) :
    Making before below { m with mode := .failing f } := by
  cases making with
  | asked begun => exact .asked begun
  | telling begun idle => exact .telling begun idle
  | told begun idle => exact .told begun idle
  | ended begun => exact .ended begun

theorem Making.deep (making : Making before below m) : below.length < m.stack.length := by
  cases making <;> simp only [List.length_cons] <;> omega

/-- Each step of the making leads on to its end. A failure is let through. -/
theorem Making.step (making : Making before below m) (sound : before.Sound) (exact : before.Exact)
    (vacant : before.registry (.changes before.lives.length) = {}) (step : m.step? = some next) :
    (Making before below next ∨ Made before below next) ∧ ∀ f, m.mode = .failing f → next.mode = .failing f := by
  cases making with
  | @asked w mode begun =>
    cases moves step with
    | @read _ _ _ _ _ r log due =>
      rw [begun.notification_eq vacant]
      refine ⟨.inl (.telling (begun.of_setLive _ log rfl rfl) ?_), nofun⟩
      have now : ((w.setLive before.lives.length ((w.live before.lives.length).read r)).withLog log).live
          before.lives.length = _ := World.live_setLive_self (World.lt_of_pending due) _
      rw [now]
      rfl
    | refuse log => exact ⟨.inl (.ended (begun.of_endUpdate log)), nofun⟩
    | finish => exact ⟨.inl (.ended (begun.of_endUpdate w.log)), nofun⟩
    | dropUpdate => exact ⟨.inl (.ended (begun.of_endUpdate w.log)), fun _ same => same⟩
  | telling begun idle =>
    cases moves step with
    | told => exact ⟨.inl (.told begun idle), nofun⟩
    | dropNotify => exact ⟨.inl (.told begun idle), fun _ same => same⟩
  | @told w mode begun idle =>
    cases moves step with
    | read _ due | report _ due | refuse _ due =>
      rw [idle] at due
      cases due
    | finish => exact ⟨.inl (.ended (begun.of_endUpdate w.log)), nofun⟩
    | dropUpdate => exact ⟨.inl (.ended (begun.of_endUpdate w.log)), fun _ same => same⟩
  | ended begun =>
    cases moves step with
    | made => exact ⟨.inr (.kept rfl), nofun⟩
    | unmade => exact ⟨.inr (.dropped (begun.settings_closeLive sound exact)), fun _ same => same⟩

theorem Making.above {during : List Machine} {last : Machine} (making : Making before below m) (sound : before.Sound)
    (exact : before.Exact) (vacant : before.registry (.changes before.lives.length) = {})
    (path : Above below.length m during last) :
    (Making before below last ∨ Made before below last) ∧ ∀ f, m.mode = .failing f → last.mode = .failing f := by
  induction path with
  | start => exact ⟨.inl making, fun _ => id⟩
  | step _ deep step ih =>
    obtain ⟨still, failing⟩ := ih
    rcases still with going | ended
    · obtain ⟨now, fails⟩ := going.step sound exact vacant step
      exact ⟨now, fun f begun => fails f (failing f begun)⟩
    · cases ended <;> exact absurd deep (Nat.lt_irrefl _)

/-- The making of a live record comes to its end. -/
theorem Making.ends (making : Making before below m) (sound : before.Sound) (exact : before.Exact)
    (vacant : before.registry (.changes before.lives.length) = {}) :
    ∃ during last, Above below.length m during last ∧ Made before below last ∧
      ∀ f, m.mode = .failing f → last.mode = .failing f := by
  obtain ⟨during, last, path, back⟩ := Above.exists_back below.length m
  obtain ⟨now, failing⟩ := making.above sound exact vacant path
  rcases now with going | ended
  · exact absurd going.deep (by omega)
  · exact ⟨during, last, path, ended, failing⟩

/-- Where a live record is made, its making begins. -/
theorem makes_step (step : m.step? = some next) (makes : m.makes = true) : ∃ below,
    next.stack = .updating m.world.lives.length false :: .making m.world.lives.length :: below ∧
      Making m.world below next := by
  obtain ⟨w, mode, stack⟩ := m
  unfold Machine.makes at makes
  split at makes
  · next actions rest answered shape =>
    simp only at answered shape
    subst answered shape
    simp only [step?, World.resume, World.perform, w.frames_makeLive, Option.some.injEq] at step
    subst step
    exact ⟨.actions actions :: rest, rfl, .asked w.begun_makeLive⟩
  · next body actions rest answered shape =>
    simp only at answered shape
    subst answered shape
    simp only [step?, World.resume, World.perform, w.frames_makeLive, Option.some.injEq] at step
    subst step
    exact ⟨.actions body :: .leaving w.lives.length :: .actions actions :: rest, rfl, .asked w.begun_makeLive⟩
  · cases makes

end Machine

/-- Closing a live record, wherever that is asked for, releases all that belongs to the record and nothing
else, and is final: whatever goes on afterwards, the record stays what it was, nobody is told of it,
and asking for it to be read anew does nothing. Where a live record is made, it comes to be
there, or its making fails and leaves the subscribers of the settings as they were; so it does
wherever on its way a failure, of whatever kind, comes up. -/
theorem Course.closed_for_good {start : World} {past : List Machine} {m : Machine} (course : Course start past m)
    (fresh : start.Fresh) :
    (∀ index next, m.closes? = some index → m.step? = some next →
      next.world.handles = m.world.handles.map (fun h => h.releasedIf (decide (h.owner? = some index))) ∧
      (∀ signal, (next.world.registry signal).handles =
        (m.world.registry signal).handles.filter fun handle => decide (m.world.owner? handle ≠ some index)) ∧
      (∀ other, other ≠ index → next.world.live other = m.world.live other) ∧
      ∀ during later, next.Onward during later → later.Gone index (m.world.live index).record) ∧
    ∀ next, m.makes = true → m.step? = some next → ∃ below,
      next.stack = .updating m.world.lives.length false :: .making m.world.lives.length :: below ∧
      (∃ during last, Machine.Above below.length next during last ∧ Machine.Made m.world below last) ∧
      ∀ during passed, Machine.Above below.length next during passed → below.length < passed.stack.length →
        ∀ f, ∃ later last, Machine.Above below.length { passed with mode := .failing f } later last ∧
          last.stack = below ∧ last.mode = .failing f ∧
          last.world.registry .settings = m.world.registry .settings := by
  have sound := course.sound fresh
  obtain ⟨exact, shut, followed⟩ := course.exact_tables fresh
  refine ⟨fun index next closes step => ?_, fun next makes step => ?_⟩
  · have left := Machine.closes_step step closes
    have bound := sound.lt_of_closes closes
    have sealed : (m.world.live index).closed = true → m.world.Sealed index := course.sealed fresh
    have own : next.world.live index = { m.world.live index with closed := true } := by
      rw [left, World.live_closeLive, if_pos ⟨rfl, bound⟩]
    refine ⟨?_, fun signal => ?_, fun other differs => ?_, fun during later path => ?_⟩
    · rw [left]
      exact sound.tables.handles_closeLive exact shut followed bound sealed
    · rw [left]
      exact sound.tables.registry_closeLive exact shut followed bound sealed signal
    · rw [left, World.live_closeLive, if_neg fun same => differs same.1.symm]
    · have gone := (course.step step).gone_onward fresh (by rw [own]) path
      rwa [own] at gone
  · have vacant := (course.within fresh).vacant sound.tables exact
    obtain ⟨below, stack, making⟩ := Machine.makes_step step makes
    refine ⟨below, stack, ?_, fun during passed path deep f => ?_⟩
    · obtain ⟨during, last, path, made, _⟩ := making.ends sound.tables exact vacant
      exact ⟨during, last, path, made⟩
    · rcases (making.above sound.tables exact vacant path).1 with going | ended
      · obtain ⟨later, last, back, made, failing⟩ := (going.fail f).ends sound.tables exact vacant
        refine ⟨later, last, back, ?_⟩
        have fails := failing f rfl
        cases made with
        | kept => cases fails
        | dropped settings => exact ⟨rfl, fails, settings⟩
      · cases ended <;> exact absurd deep (Nat.lt_irrefl _)

/-- Two live records. One of those who listen to the first asks for an update and then closes the record. -/
def closingSession : List Machine × Machine :=
  (({} : World).doing .openLive).play 60 []
    [.openLive, .onChange "other" [], .turnTo 0, .onChange "first" [[.refresh, .closeLive]], .onChange "second" []]

/-- The first steps of a change that the records follow. -/
def closingChange (fuel : Nat) : List Machine × Machine :=
  closingSession.2.begin fuel closingSession.1 (.update "CMakeLite.override.cStandard" (.text "c11"))

/-- A pattern that cannot be used, which no live record is there to be told of. -/
def patternSession : List Machine × Machine :=
  (({} : World).doing (.update "CMakeLite.override.filterCompilerArgs" (.text "("))).back 0 40 []

/-- A record that is closed while it is notified, with an update to come, leaves the other one its
subscriptions, and further changes and requests do not reach it. The making of a record that
cannot be read leaves nothing behind. -/
theorem closed_for_good_handling :
    (∃ past m next during later, Course {} past m ∧ m.closes? = some 0 ∧ m.step? = some next ∧
      (m.world.live 0).pending = true ∧ (m.world.registry .settings).handles = [0, 1] ∧
      (next.world.registry .settings).handles = [1] ∧ (next.world.registry (.changes 1)).handles = [2] ∧
      next.world.live 1 = m.world.live 1 ∧ next.Onward during later ∧ later.stack = [] ∧
      later.Gone 0 (m.world.live 0).record) ∧
    ∃ past m next during last, Course {} past m ∧ m.makes = true ∧ m.step? = some next ∧
      Machine.Above 1 next during last ∧ (∃ f, last.mode = .failing f) ∧
      last.world.registry .settings = m.world.registry .settings := by
  constructor
  · have ended : closingSession.2.stack.isEmpty = true := by decide +kernel
    have course : Course {} (closingChange 5).1 (closingChange 5).2 :=
      ((@Course.start {} .openLive).play 60 _).begin ended 5 _
    have now : (closingChange 5).2.closes? = some 0 ∧ ((closingChange 5).2.world.live 0).pending = true ∧
        ((closingChange 5).2.world.registry .settings).handles = [0, 1] ∧
        ((closingChange 5).2.world.registry (.changes 1)).handles = [2] ∧
        ([0, 1].filter fun handle => decide ((closingChange 5).2.world.owner? handle ≠ some 0)) = [1] ∧
        ([2].filter fun handle => decide ((closingChange 5).2.world.owner? handle ≠ some 0)) = [2] := by
      decide +kernel
    have onward : ((closingChange 5).2.step?.any fun next =>
        (next.play 80 [] [.update "CMakeLite.override.cStandard" (.text "c99"), .refresh]).2.stack.isEmpty) = true := by
      decide +kernel
    obtain ⟨closes, due, followers, listeners, other, others⟩ := now
    obtain ⟨next, step, rest⟩ := (Option.any_eq_true _ _).mp onward
    obtain ⟨_, registry, lives, gone⟩ := (course.closed_for_good World.fresh_empty).1 0 next closes step
    have path := (Machine.Onward.start : next.Onward [] next).play 80
      [.update "CMakeLite.override.cStandard" (.text "c99"), .refresh]
    refine ⟨_, _, next, _, _, course, closes, step, due, followers, ?_, ?_, lives 1 (by decide), path,
      List.isEmpty_iff.mp rest, gone _ _ path⟩
    · rw [registry, followers, other]
    · rw [registry, listeners, others]
  · have ended : patternSession.2.stack.isEmpty = true := by decide +kernel
    have course := ((@Course.start {} (.update "CMakeLite.override.filterCompilerArgs" (.text "("))).back 0 40).act
      .openLive (List.isEmpty_iff.mp ended)
    have now : ((patternSession.2.world.doing .openLive).step?.any fun next =>
        next.stack.length = 3 && (next.back 1 20 []).2.stack.length ≤ 1 &&
          (next.back 1 20 []).2.world.current.isNone) = true := by
      decide +kernel
    obtain ⟨next, step, come⟩ := (Option.any_eq_true _ _).mp now
    simp only [Bool.and_eq_true, decide_eq_true_eq, Option.isNone_iff_eq_none] at come
    obtain ⟨⟨three, back⟩, none⟩ := come
    obtain ⟨below, stack, ⟨during, last, path, made⟩, _⟩ :=
      (course.closed_for_good World.fresh_empty).2 next rfl step
    have one : below.length = 1 := by simpa [stack] using three
    have ended : last.stack.length ≤ 1 := by
      rw [← one]
      cases made <;> exact Nat.le_refl _
    rw [one] at path
    obtain ⟨same, -⟩ := path.unique ended (Machine.Above.start.back 20) back
    refine ⟨_, _, next, during, last, course, rfl, step, path, ?_⟩
    cases made with
    | kept current =>
      rw [← same] at none
      cases current.symm.trans none
    | dropped settings => exact ⟨⟨_, rfl⟩, settings⟩

end LayeredSettings

import LayeredSettings.Proofs.Session.Ownership

namespace LayeredSettings

namespace World

variable {w : World} {index : Nat}

theorem getElem?_release_if (w : World) (handle other : Nat) : (w.release handle).handles[other]? =
    (w.handles[other]?).map fun h => h.releasedIf (decide (other = handle)) := by
  rw [getElem?_release]
  split
  · next same => simp [same, Handle.releasedIf]
  · next differs => simp [differs, Handle.releasedIf]

/-- Closing an open signal releases the subscriptions to it, and nothing else. -/
theorem Exact.getElem?_close_open (exact : w.Exact) {signal : Signal} (opened : (w.registry signal).closed = false)
    (handle : Nat) : (w.close signal).handles[handle]? =
      (w.handles[handle]?).map fun h => h.releasedIf (h.holding.isTo signal) := by
  have listens := exact signal handle
  rw [getElem?_close]
  cases found : w.handles[handle]? with
  | none => simp
  | some h =>
    obtain ⟨released, holding⟩ := h
    rw [found] at listens
    cases holding with
    | alone name parting => simp [listens, Handle.releasedIf, Holding.isTo]
    | subscription source listener =>
      by_cases same : source = signal <;> cases released <;>
        simp [listens, opened, same, Handle.releasedIf, Holding.isTo]

/-- The signals of an open record are open. -/
theorem Sound.signal_open (sound : w.Sound) (opened : (w.live index).closed = false) {signal : Signal}
    (own : signal = .changes index ∨ signal = .failures index) : (w.registry signal).closed = false := by
  refine Bool.eq_false_iff.mpr fun closed => ?_
  have shut : (w.live index).closed = true := (sound.heard (by rcases own with rfl | rfl <;> simp [closed])).2
  rw [opened] at shut
  cases shut

/-- A record follows the settings through one handle. -/
theorem Sound.watch_iff (sound : w.Sound) (followed : w.Followed) (bound : index < w.lives.length) {handle : Nat}
    {h : Handle} (found : w.handles[handle]? = some h) :
    handle = (w.live index).watch ↔ h.holding = .subscription .settings (.live index) := by
  constructor
  · rintro rfl
    obtain ⟨_, there, own⟩ := followed index bound
    cases there.symm.trans found
    exact Holding.subject_eq_live.mp own
  · intro own
    obtain ⟨released, _⟩ := h
    simp only at own
    subst own
    exact (sound.watching found).2.2.symm

/-- A live record is closed in four steps: it is marked, it leaves the settings, and its signals are closed. -/
theorem closeLive_of_open (opened : (w.live index).closed = false) :
    w.closeLive index = (((w.setLive index { w.live index with closed := true }).release
      (w.live index).watch).close (.changes index)).close (.failures index) := by
  simp only [closeLive]
  rw [if_neg (by simp [opened])]

/-- Closing an open record releases the handles that belong to it, and no others. -/
theorem Sound.getElem?_closeLive (sound : w.Sound) (exact : w.Exact) (followed : w.Followed)
    (bound : index < w.lives.length) (opened : (w.live index).closed = false) (handle : Nat) :
    (w.closeLive index).handles[handle]? =
      (w.handles[handle]?).map fun h => h.releasedIf (decide (h.owner? = some index)) := by
  have marked : (w.setLive index { w.live index with closed := true }).Exact := exact.of_tables rfl rfl
  have unfollowed := marked.release (w.live index).watch
  rw [closeLive_of_open opened, (unfollowed.close _).getElem?_close_open, unfollowed.getElem?_close_open,
    getElem?_release_if]
  · change Option.map _ (Option.map _ (Option.map _ w.handles[handle]?)) = _
    cases found : w.handles[handle]? with
    | none => rfl
    | some h =>
      simp only [Option.map_some, Handle.holding_releasedIf, Handle.releasedIf_releasedIf, Option.some.injEq]
      congr 1
      rw [Bool.eq_iff_iff]
      simp [Handle.owner_eq_some, sound.watch_iff followed bound found, or_assoc]
  · rw [closed_release]
    exact sound.signal_open opened (.inl rfl)
  · rw [closed_close, closed_release, Bool.or_eq_false_iff]
    exact ⟨sound.signal_open opened (.inr rfl), by simp⟩

/-- What a closed record has left behind: its signals are closed, and it follows the settings no
longer. -/
structure Sealed (w : World) (index : Nat) : Prop where
  changes : (w.registry (.changes index)).closed = true
  failures : (w.registry (.failures index)).closed = true
  watch : w.isReleased (w.live index).watch = true

/-- All handles that belong to a closed record have been released. -/
theorem Sealed.released (sealed : w.Sealed index) (sound : w.Sound) (exact : w.Exact) (shut : w.Shut) {handle : Nat}
    {h : Handle} (found : w.handles[handle]? = some h) (own : h.owner? = some index) : h.released = true := by
  obtain ⟨released, holding⟩ := h
  have unheard {signal : Signal} (closed : (w.registry signal).closed = true) (heard : holding.isTo signal = true) :
      released = true := by
    cases released with
    | true => rfl
    | false =>
      have listens : (⟨false, holding⟩ : Handle).listens signal = true := by simpa [Handle.listens] using heard
      obtain ⟨listener, same⟩ := Handle.listens_iff.mp listens
      cases same
      have member := (exact signal handle).mpr ⟨listener, found⟩
      rw [shut signal closed] at member
      cases member
  rcases Handle.owner_eq_some.mp own with follows | changes | failures
  · simp only at follows
    subst follows
    have last := sealed.watch
    rwa [(sound.watching found).2.2, isReleased_of_found found] at last
  · exact unheard sealed.changes changes
  · exact unheard sealed.failures failures

theorem Sound.sealed_closeLive (sound : w.Sound) (exact : w.Exact) (followed : w.Followed)
    (bound : index < w.lives.length) (opened : (w.live index).closed = false) : (w.closeLive index).Sealed index where
  changes := by
    rw [closeLive_of_open opened, closed_close, closed_close]
    simp
  failures := by
    rw [closeLive_of_open opened, closed_close]
    simp
  watch := by
    obtain ⟨h, found, follows⟩ := followed index bound
    have own : h.owner? = some index := Handle.owner_eq_some.mpr (.inl (Holding.subject_eq_live.mp follows))
    have last := sound.getElem?_closeLive exact followed bound opened (w.live index).watch
    rw [found, Option.map_some] at last
    rw [live_closeLive, if_pos ⟨rfl, bound⟩, isReleased_of_found last]
    simp [Handle.releasedIf, own]

/-- Closing a record releases the handles that belong to it, and no others. -/
theorem Sound.handles_closeLive (sound : w.Sound) (exact : w.Exact) (shut : w.Shut) (followed : w.Followed)
    (bound : index < w.lives.length) (left : (w.live index).closed = true → w.Sealed index) :
    (w.closeLive index).handles = w.handles.map fun h => h.releasedIf (decide (h.owner? = some index)) := by
  refine List.ext_getElem? fun handle => ?_
  rw [List.getElem?_map]
  cases opened : (w.live index).closed with
  | false => exact sound.getElem?_closeLive exact followed bound opened handle
  | true =>
    have still : w.closeLive index = w := by simp [World.closeLive, opened]
    rw [still]
    cases found : w.handles[handle]? with
    | none => rfl
    | some h =>
      rw [Option.map_some]
      by_cases own : h.owner? = some index
      · rw [Handle.releasedIf_of_released ((left opened).released sound exact shut found own)]
      · simp [own, Handle.releasedIf]

/-- The signals keep all subscriptions but those of the record that is closed. -/
theorem Sound.registry_closeLive (sound : w.Sound) (exact : w.Exact) (shut : w.Shut) (followed : w.Followed)
    (bound : index < w.lives.length) (left : (w.live index).closed = true → w.Sealed index) (signal : Signal) :
    ((w.closeLive index).registry signal).handles =
      (w.registry signal).handles.filter fun handle => decide (w.owner? handle ≠ some index) := by
  have rewires : w.Rewires (fun _ => True) (w.closeLive index) := rewires_closeLive trivial
  have after := rewires.exact exact
  refine ((sound.closeLive bound).ordered signal).eq_of_mem_iff ((sound.ordered signal).filter _) fun handle => ?_
  rw [List.mem_filter, after, exact, sound.handles_closeLive exact shut followed bound left, List.getElem?_map]
  cases found : w.handles[handle]? with
  | none => simp
  | some h =>
    rw [owner_of_found found]
    obtain ⟨released, holding⟩ := h
    by_cases own : Handle.owner? ⟨released, holding⟩ = some index <;> simp [own, Handle.releasedIf]

/-- A record that is closed leaves the subscribers of the settings. -/
theorem Exact.settings_closeLive (exact : w.Exact) (opened : (w.live index).closed = false) :
    (w.closeLive index).registry .settings = (w.registry .settings).remove (w.live index).watch := by
  have marked : (w.setLive index { w.live index with closed := true }).Exact := exact.of_tables rfl rfl
  have unfollowed := marked.release (w.live index).watch
  have handles : ((w.closeLive index).registry .settings).handles =
      (w.registry .settings).handles.filter (· ≠ (w.live index).watch) := by
    rw [closeLive_of_open opened, (unfollowed.close _).registry_close, if_neg (by simp), unfollowed.registry_close,
      if_neg (by simp), marked.registry_release]
    rfl
  have closed : ((w.closeLive index).registry .settings).closed = (w.registry .settings).closed := by
    rw [closeLive_of_open opened, closed_close, closed_close, closed_release]
    simp [setLive]
  rw [Registry.remove, ← handles, ← closed]

theorem closed_setLive (w : World) (i : Nat) (live : Live) (same : live.closed = (w.live i).closed) :
    ((w.setLive i live).live index).closed = (w.live index).closed := by
  rw [live_setLive]
  split
  · next own => rw [same, own.1]
  · rfl

theorem closed_requestUpdate (w : World) (i : Nat) :
    ((w.requestUpdate i).1.live index).closed = (w.live index).closed := by
  cases opened : (w.live i).closed with
  | true => rw [requestUpdate_of_closed opened]
  | false =>
    rw [requestUpdate_of_open opened]
    exact w.closed_setLive i _ rfl

theorem closed_endUpdate (w : World) (i : Nat) : ((w.endUpdate i).live index).closed = (w.live index).closed :=
  w.closed_setLive i { w.live i with updating := false, pending := false } rfl

end World

namespace Machine

/-- The live record that the step to come closes: it is told to, or leaves the record, or the making of
the record has failed. -/
def closes? (m : Machine) : Option Nat :=
  match m.mode, m.stack with
  | .answered _, .actions (.closeLive :: _) :: _ => m.world.current
  | .failing _, .making index :: _ => some index
  | _, .leaving index :: _ => some index
  | _, _ => none

variable {m next : Machine} {index : Nat}

theorem closes_step (step : m.step? = some next) (closes : m.closes? = some index) :
    next.world = m.world.closeLive index := by
  unfold closes? at closes
  obtain ⟨w, mode, stack⟩ := m
  simp only at closes
  split at closes
  · simp only [step?, World.resume, World.perform, World.forCurrent, closes, Option.some.injEq] at step
    rw [← step]
  · cases closes
    cases step
    rfl
  · cases closes
    cases mode <;> cases step <;> rfl
  · cases closes

theorem Sound.lt_of_closes (sound : m.Sound) (closes : m.closes? = some index) : index < m.world.lives.length := by
  unfold closes? at closes
  split at closes
  · exact sound.tables.present closes
  · next stack =>
    cases closes
    exact sound.fits (.making index) (by simp [stack])
  · next stack =>
    cases closes
    exact sound.fits (.leaving index) (by simp [stack])
  · cases closes

/-- A live record that is closed by a step is closed as a whole. -/
theorem closed_step (step : m.step? = some next) (closed : (next.world.live index).closed = true) :
    (m.world.live index).closed = true ∨ next.world = m.world.closeLive index := by
  have kept {v : World} (lives : v.lives = m.world.lives) (closed : (v.live index).closed = true) :
      (m.world.live index).closed = true := by
    simpa only [World.live, lives] using closed
  have left {i : Nat} (closed : ((m.world.closeLive i).live index).closed = true) :
      (m.world.live index).closed = true ∨ m.world.closeLive i = m.world.closeLive index := by
    rw [World.live_closeLive] at closed
    split at closed
    · next own => exact .inr (by rw [own.1])
    · exact .inl closed
  have made (closed : (m.world.makeLive.1.live index).closed = true) : (m.world.live index).closed = true := by
    rw [World.live_makeLive] at closed
    split at closed
    · cases closed
    · exact closed
  cases moves step with
  | act _ deed =>
    cases deed with
    | quiet _ _ alike => exact .inl (kept alike.lives closed)
    | fire | attempt | within => exact .inl closed
    | letGo => exact .inl (kept (World.lives_release ..) closed)
    | @change v layers _ alike _ =>
      refine .inl (kept ?_ closed)
      rcases v.change_cases layers with ⟨_, same⟩ | ⟨_, same⟩ <;> rw [same] <;> exact alike.lives
    | close => exact left closed
    | refresh => exact .inl ((World.closed_requestUpdate _ _).symm.trans closed)
    | make | makeWith => exact .inl (made closed)
  | call _ found => exact .inl (kept (World.alike_call _ _ found).lives closed)
  | follow => exact .inl ((World.closed_requestUpdate _ _).symm.trans closed)
  | @read w _ i _ _ r => exact .inl ((w.closed_setLive i ((w.live i).read r) rfl).symm.trans closed)
  | @report w _ i => exact .inl ((w.closed_setLive i (w.live i).taken rfl).symm.trans closed)
  | refuse | finish | dropUpdate => exact .inl ((World.closed_endUpdate _ _).symm.trans closed)
  | left | unmade | unleft => exact left closed
  | released | parted | dropReleasing | interrupted => exact .inl (kept (World.lives_release ..) closed)
  | _ => exact .inl closed

/-- A closed record is left as it is. -/
theorem Sound.record_step (sound : m.Sound) (step : m.step? = some next) (closed : (m.world.live index).closed = true) :
    (next.world.live index).closed = true ∧ (next.world.live index).record = (m.world.live index).record := by
  cases live_step sound step index with
  | kept _ _ same => simp [same, closed]
  | asked asking => simp [asks, closed] at asking
  | made new _ => exact absurd (World.lt_of_closed closed) (by omega)
  | closed _ _ same | ended _ _ same => simp [same, closed]
  | read reading | reported reading =>
    obtain ⟨_, _, _, _, _, _, opened⟩ := reads_iff.mp reading
    rw [closed] at opened
    cases opened

theorem Sound.sealed_step (sound : m.Sound) (step : m.step? = some next) (followed : m.world.Followed)
    (closed : (m.world.live index).closed = true) (sealed : m.world.Sealed index) : next.world.Sealed index := by
  have rewires := rewires_step step
  have bound := World.lt_of_closed closed
  obtain ⟨_, found, _⟩ := followed index bound
  refine ⟨rewires.closed sealed.changes, rewires.closed sealed.failures, ?_⟩
  rw [sound.watch_step step bound]
  exact rewires.isReleased (List.getElem?_eq_some_iff.mp found).1 sealed.watch

/-- Nothing goes on any longer for a live record that has been closed: it keeps the record it had,
all that belonged to it has been released, nobody is called for it, and it is not read anew,
whoever asks for that. -/
structure Gone (index : Nat) (record : OverrideRecord) (m : Machine) : Prop where
  closed : (m.world.live index).closed = true
  record : (m.world.live index).record = record
  released : ∀ handle, m.world.owner? handle = some index → m.world.isReleased handle = true
  unfollowed : m.world.isReleased (m.world.live index).watch = true ∧
    (m.world.live index).watch ∉ (m.world.registry .settings).handles
  uncalled : ∀ {signal event handle}, m.call? = some (signal, event, handle) →
    signal ≠ .changes index ∧ signal ≠ .failures index ∧ handle ≠ (m.world.live index).watch
  unread : m.reads index = false
  unasked : ∀ {v actions below}, m.mode = .answered v → m.stack = .actions (.refresh :: actions) :: below →
    m.world.current = some index → m.step? = some ⟨m.world, .answered .null, .actions actions :: below⟩

end Machine

namespace Course

variable {start : World} {past : List Machine} {m next : Machine} {index : Nat}

/-- A closed record has left nothing behind. -/
theorem sealed (course : Course start past m) (fresh : start.Fresh) (closed : (m.world.live index).closed = true) :
    m.world.Sealed index := by
  induction course with
  | start action =>
    have bound := World.lt_of_closed closed
    simp [World.doing, fresh.lives] at bound
  | act _ _ _ ih => exact ih closed
  | @step past m next course step ih =>
    have sound := course.sound fresh
    obtain ⟨exact, _, followed⟩ := course.exact_tables fresh
    by_cases before : (m.world.live index).closed = true
    · exact sound.sealed_step step followed before (ih before)
    · rcases Machine.closed_step step closed with already | left
      · exact absurd already before
      · rw [left] at closed ⊢
        have bound : index < m.world.lives.length := by simpa using World.lt_of_closed closed
        exact sound.tables.sealed_closeLive exact followed bound (by simpa using before)

theorem gone (course : Course start past m) (fresh : start.Fresh) (closed : (m.world.live index).closed = true) :
    m.Gone index (m.world.live index).record := by
  have sound := course.sound fresh
  obtain ⟨exact, shut, followed⟩ := course.exact_tables fresh
  have sealed := course.sealed fresh closed
  refine ⟨closed, rfl, fun handle own => ?_, ⟨sealed.watch, fun member => ?_⟩, fun {signal event handle} calls => ?_,
    ?_, fun mode stack current => ?_⟩
  · obtain ⟨h, found, own⟩ := World.owner_eq_some.mp own
    rw [World.isReleased_of_found found]
    exact sealed.released sound.tables exact shut found own
  · obtain ⟨listener, found⟩ := (exact _ _).mp member
    have released := sealed.watch
    rw [World.isReleased_of_found found] at released
    cases released
  · obtain ⟨v, handles, rest, mode, stack⟩ := Machine.stack_of_call calls
    obtain ⟨_, _, told⟩ := sound.fits (.notify signal event (handle :: handles)) (by simp [stack])
    obtain ⟨released, listener, found⟩ := told handle (List.mem_cons_self ..)
    have live : m.world.isReleased handle = false := by
      simpa [Machine.call?, mode, stack] using calls
    rw [World.isReleased_of_found found] at live
    simp only at live
    subst live
    have member := (exact signal handle).mpr ⟨listener, found⟩
    refine ⟨?_, ?_, ?_⟩
    · rintro rfl
      simp [shut _ sealed.changes] at member
    · rintro rfl
      simp [shut _ sealed.failures] at member
    · rintro rfl
      have released := sealed.watch
      rw [World.isReleased_of_found found] at released
      cases released
  · refine Bool.eq_false_iff.mpr fun reading => ?_
    obtain ⟨_, _, _, _, _, _, opened⟩ := Machine.reads_iff.mp reading
    rw [closed] at opened
    cases opened
  · rw [Machine.step?_of_stack stack]
    simp [Machine.outcome, mode, World.resume, World.perform, World.forCurrent, current,
      World.requestUpdate_of_closed closed]

/-- A closed record is done with for good. -/
theorem gone_onward {during : List Machine} {later : Machine} (course : Course start past m) (fresh : start.Fresh)
    (closed : (m.world.live index).closed = true) (path : m.Onward during later) :
    later.Gone index (m.world.live index).record := by
  have stays : (later.world.live index).closed = true ∧
      (later.world.live index).record = (m.world.live index).record := by
    induction path with
    | start => exact ⟨closed, rfl⟩
    | act _ _ _ ih => exact ih
    | step path step ih =>
      obtain ⟨still, same⟩ := ih
      obtain ⟨stays, kept⟩ := ((course.onward path).sound fresh).record_step step still
      exact ⟨stays, kept.trans same⟩
  rw [← stays.2]
  exact (course.onward path).gone fresh stays.1

end Course

end LayeredSettings

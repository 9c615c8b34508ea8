import LayeredSettings.Proofs.Session.Course

namespace LayeredSettings

/-- Whether a handle stands for a subscription to a signal. -/
def Holding.isTo (signal : Signal) : Holding → Bool
  | .subscription s _ => s = signal
  | .alone .. => false

/-- The live record that is told, if it is one. -/
def Listener.index? : Listener → Option Nat
  | .live index => some index
  | .handler .. => none

/-- The signal a handle is about and the live record it serves, if it does. -/
def Holding.subject : Holding → Option (Signal × Option Nat)
  | .subscription signal listener => some (signal, listener.index?)
  | .alone .. => none

theorem Holding.subject_eq_live {h : Holding} {signal : Signal} {index : Nat} :
    h.subject = some (signal, some index) ↔ h = .subscription signal (.live index) := by
  cases h with
  | subscription source listener => cases listener <;> simp [subject, Listener.index?]
  | alone name parting => simp [subject]

theorem Holding.subject_eq_some {h : Holding} {signal : Signal} :
    (∃ index, h.subject = some (signal, index)) ↔ ∃ listener, h = .subscription signal listener := by
  cases h with
  | subscription source listener => simp [subject]
  | alone name parting => simp [subject]

namespace World

/-- Whether a handle is there and serves no live record. -/
def Spare (w : World) (handle : Nat) : Prop :=
  ∃ h, w.handles[handle]? = some h ∧ ∀ signal index, h.holding ≠ .subscription signal (.live index)

/-- What holds of the tables of every session: a signal knows of the subscriptions to it
that are not released, in the order they were made; the live records that are not
closed follow the settings, each through a handle no name stands for; and a record is
asked to be read again only while it is being updated. -/
structure Sound (w : World) : Prop where
  registered : ∀ {signal handle}, handle ∈ (w.registry signal).handles →
    ∃ listener, w.handles[handle]? = some ⟨false, .subscription signal listener⟩
  ordered : ∀ signal, (w.registry signal).handles.Pairwise (· < ·)
  watching : ∀ {handle released signal index},
    w.handles[handle]? = some ⟨released, .subscription signal (.live index)⟩ →
      signal = .settings ∧ index < w.lives.length ∧ (w.live index).watch = handle
  watched : ∀ {index}, index < w.lives.length → (w.live index).closed = false →
    (w.registry .settings).closed = false → (w.live index).watch ∈ (w.registry .settings).handles ∧
      w.handles[(w.live index).watch]? = some ⟨false, .subscription .settings (.live index)⟩
  named : ∀ {name handle}, w.names.get? name = some handle → w.Spare handle
  heard : ∀ {index}, (w.registry (.changes index)).closed = true ∨ (w.registry (.failures index)).closed = true →
    index < w.lives.length ∧ (w.live index).closed = true
  present : ∀ {index}, w.current = some index → index < w.lives.length
  asked : ∀ {index}, (w.live index).pending = true → (w.live index).updating = true

theorem Fresh.sound {w : World} (fresh : w.Fresh) : w.Sound where
  registered member := by simp [fresh.registry] at member
  ordered signal := by simp [fresh.registry]
  watching found := by simp [fresh.handles] at found
  watched bound := by simp [fresh.lives] at bound
  named found := by simp [fresh.names, Entries.get?] at found
  heard closed := by simp [fresh.registry] at closed
  present current := by simp [fresh.current] at current
  asked pending := by simp [World.live, fresh.lives, default, instInhabitedLive.default] at pending

variable {w v : World}

/-- A handle is released by marking it and taking it out of its signal. -/
theorem release_cases (w : World) (handle : Nat) :
    w.release handle = w ∨ ∃ holding log, w.handles[handle]? = some ⟨false, holding⟩ ∧
      w.release handle =
        { w with
          handles := w.handles.set handle ⟨true, holding⟩
          registry := fun s =>
            if holding.isTo s then (w.registry s).remove handle else w.registry s
          log } := by
  unfold release
  split
  · exact .inl rfl
  · next h found =>
    obtain ⟨released, holding⟩ := h
    cases released with
    | true => exact .inl rfl
    | false =>
      right
      cases holding with
      | subscription signal listener =>
        refine ⟨_, w.log, found, ?_⟩
        simp only [Bool.false_eq_true, if_false, setRegistry, World.mk.injEq, true_and, and_true]
        funext s
        by_cases same : s = signal
        · subst same
          simp [Holding.isTo]
        · simp [Holding.isTo, same, Ne.symm same]
      | alone name parting =>
        cases name with
        | none => exact ⟨_, w.log, found, by simp [Holding.isTo]⟩
        | some name => exact ⟨_, w.log ++ [.released name], found, by simp [note, Holding.isTo]⟩

@[simp] theorem lives_release (w : World) (handle : Nat) : (w.release handle).lives = w.lives := by
  rcases w.release_cases handle with same | ⟨_, _, _, result⟩
  · rw [same]
  · rw [result]

@[simp] theorem live_release (w : World) (handle index : Nat) :
    (w.release handle).live index = w.live index := by
  simp [World.live]

@[simp] theorem closed_release (w : World) (handle : Nat) (signal : Signal) :
    ((w.release handle).registry signal).closed = (w.registry signal).closed := by
  rcases w.release_cases handle with same | ⟨_, _, _, result⟩
  · rw [same]
  · rw [result]
    simp only
    split <;> rfl

/-- What a handle stands for does not change when one is released. -/
theorem holding_of_release {handle other : Nat} {h : Handle} (there : (w.release handle).handles[other]? = some h) :
    ∃ released, w.handles[other]? = some ⟨released, h.holding⟩ := by
  rcases w.release_cases handle with same | ⟨holding, _, found, result⟩
  · rw [same] at there
    exact ⟨h.released, there⟩
  · rw [result] at there
    simp only [List.getElem?_set] at there
    split at there
    · next here =>
      subst here
      split at there
      · cases there
        exact ⟨false, found⟩
      · cases there
    · exact ⟨h.released, there⟩

/-- Releasing a handle that no open record follows the settings through leaves a sound
world. -/
theorem Sound.release (sound : w.Sound) (handle : Nat)
    (spare : (w.registry .settings).closed = true ∨ ∀ released signal index,
      w.handles[handle]? = some ⟨released, .subscription signal (.live index)⟩ →
        (w.live index).closed = true) : (w.release handle).Sound := by
  rcases w.release_cases handle with same | ⟨holding, log, found, result⟩
  · rwa [same]
  · have inside : handle < w.handles.length := (List.getElem?_eq_some_iff.mp found).1
    have held {other : Nat} {h : Handle} (there : (w.handles.set handle ⟨true, holding⟩)[other]? = some h) :
        ∃ released, w.handles[other]? = some ⟨released, h.holding⟩ :=
      holding_of_release (by rwa [result] : (w.release handle).handles[other]? = some h)
    have kept {other : Nat} (differs : other ≠ handle) :
        (w.handles.set handle ⟨true, holding⟩)[other]? = w.handles[other]? :=
      List.getElem?_set_ne (Ne.symm differs)
    rw [result]
    constructor
    · intro signal other member
      simp only at member ⊢
      split at member
      · obtain ⟨before, differs⟩ := List.mem_filter.mp member
        rw [kept (by simpa using differs)]
        exact sound.registered before
      · next elsewhere =>
        obtain ⟨listener, there⟩ := sound.registered member
        have differs : other ≠ handle := by
          rintro rfl
          rw [there] at found
          cases found
          simp [Holding.isTo] at elsewhere
        rw [kept differs]
        exact ⟨listener, there⟩
    · intro signal
      simp only
      split
      · exact (sound.ordered signal).filter _
      · exact sound.ordered signal
    · intro other released signal index there
      obtain ⟨_, before⟩ := held there
      exact sound.watching before
    · intro index bound opened listening
      replace opened : (w.live index).closed = false := opened
      have before : (w.registry .settings).closed = false := by
        simp only at listening
        split at listening <;> exact listening
      obtain ⟨member, watch⟩ := sound.watched bound opened before
      have differs : (w.live index).watch ≠ handle := by
        intro same
        rcases spare with closed | spare
        · rw [closed] at before
          cases before
        · rw [spare _ _ _ (same ▸ watch)] at opened
          cases opened
      refine ⟨?_, (kept differs).trans watch⟩
      change (w.live index).watch ∈ (if holding.isTo .settings then _ else _ : Registry).handles
      split
      · exact List.mem_filter.mpr ⟨member, by simpa using differs⟩
      · exact member
    · intro name other bound
      obtain ⟨h, there, plain⟩ := sound.named bound
      by_cases same : other = handle
      · subst same
        rw [there] at found
        cases found
        exact ⟨⟨true, holding⟩, by simp [inside], plain⟩
      · exact ⟨h, (kept same).trans there, plain⟩
    · intro index closed
      apply sound.heard
      simp only at closed
      rcases closed with closed | closed
      · left; split at closed <;> exact closed
      · right; split at closed <;> exact closed
    · exact sound.present
    · exact sound.asked

theorem Sound.releaseAll (sound : w.Sound) (handles : List Nat)
    (spare : (w.registry .settings).closed = true ∨ ∀ handle ∈ handles, ∀ released signal index,
      w.handles[handle]? = some ⟨released, .subscription signal (.live index)⟩ →
        (w.live index).closed = true) : (handles.foldl World.release w).Sound := by
  induction handles generalizing w with
  | nil => exact sound
  | cons handle rest ih =>
    refine ih (sound.release handle (spare.imp_right fun spare => spare handle (List.mem_cons_self ..))) ?_
    rw [closed_release]
    refine spare.imp_right fun spare other member released signal index there => ?_
    obtain ⟨before, found⟩ := holding_of_release there
    rw [live_release]
    exact spare other (List.mem_cons_of_mem _ member) before signal index found

@[simp] theorem lives_releaseAll (w : World) (handles : List Nat) :
    (handles.foldl release w).lives = w.lives := by
  induction handles generalizing w with
  | nil => rfl
  | cons handle rest ih => simp [ih]

/-- Changing what a signal knows keeps a world sound if it knows no more, and is closed
only where it may be. -/
theorem Sound.setRegistry (sound : w.Sound) {signal : Signal} {r : Registry}
    (fewer : r.handles.Sublist (w.registry signal).handles)
    (settled : signal = .settings → r.closed = true)
    (heard : ∀ index, signal = .changes index ∨ signal = .failures index →
      index < w.lives.length ∧ (w.live index).closed = true) : (w.setRegistry signal r).Sound where
  registered {s handle} member := by
    apply sound.registered
    simp only [World.setRegistry] at member
    split at member
    · next same => exact same ▸ fewer.subset member
    · exact member
  ordered s := by
    simp only [World.setRegistry]
    split
    · exact (sound.ordered signal).sublist fewer
    · exact sound.ordered s
  watching found := sound.watching found
  watched {index} bound opened listening := by
    simp only [World.setRegistry] at listening ⊢
    split at listening
    · next same => rw [settled same.symm] at listening; cases listening
    · next differs =>
      rw [if_neg differs]
      exact sound.watched bound opened listening
  named found := sound.named found
  heard {index} closed := by
    simp only [World.setRegistry] at closed
    rcases closed with closed | closed
    · split at closed
      · next same => exact heard index (.inl same.symm)
      · exact sound.heard (.inl closed)
    · split at closed
      · next same => exact heard index (.inr same.symm)
      · exact sound.heard (.inr closed)
  present current := sound.present current
  asked pending := sound.asked pending

@[simp] theorem lives_close (w : World) (signal : Signal) : (w.close signal).lives = w.lives := by
  simp only [close]
  split
  · rfl
  · simp [World.setRegistry]

@[simp] theorem live_close (w : World) (signal : Signal) (index : Nat) :
    (w.close signal).live index = w.live index := by
  simp [World.live]

/-- A signal may be closed at any time, one of a live record only with the record. -/
theorem Sound.close (sound : w.Sound) (signal : Signal)
    (heard : ∀ index, signal = .changes index ∨ signal = .failures index →
      index < w.lives.length ∧ (w.live index).closed = true) : (w.close signal).Sound := by
  simp only [World.close]
  split
  · exact sound
  · have shut : (w.setRegistry signal { w.registry signal with closed := true }).Sound :=
      sound.setRegistry (List.Sublist.refl _) (fun _ => rfl) heard
    have released := shut.releaseAll (w.registry signal).handles (by
      by_cases same : signal = .settings
      · left
        simp [World.setRegistry, same]
      · right
        intro handle member released other index found
        obtain ⟨_, there⟩ := sound.registered member
        have own := (there.symm.trans found)
        cases own
        exact absurd (sound.watching there).1 same)
    refine released.setRegistry ?_ (fun _ => rfl) ?_
    · exact List.nil_sublist _
    · intro index own
      simpa [World.live, World.setRegistry] using heard index own

/-- The tables are all that soundness is about. -/
theorem Sound.of_tables (sound : w.Sound) (registry : v.registry = w.registry) (handles : v.handles = w.handles)
    (names : v.names = w.names) (lives : v.lives = w.lives) (current : v.current = w.current) : v.Sound := by
  have live : v.live = w.live := by
    funext index
    simp only [World.live, lives]
  constructor <;> simp only [Spare, registry, handles, names, lives, current, live]
  · exact sound.registered
  · exact sound.ordered
  · exact sound.watching
  · exact sound.watched
  · exact sound.named
  · exact sound.heard
  · exact sound.present
  · exact sound.asked

theorem Sound.lt_of_registered (sound : w.Sound) {signal : Signal} {handle : Nat}
    (member : handle ∈ (w.registry signal).handles) : handle < w.nextHandle := by
  obtain ⟨_, found⟩ := sound.registered member
  exact (List.getElem?_eq_some_iff.mp found).1

theorem getElem?_addHandle (w : World) (h : Handle) (handle : Nat) :
    (w.addHandle h).handles[handle]? = if handle = w.nextHandle then some h else w.handles[handle]? := by
  by_cases same : handle = w.nextHandle
  · simp [same, addHandle, nextHandle]
  · rw [if_neg same]
    rcases Nat.lt_or_gt_of_ne same with earlier | later
    · exact List.getElem?_append_left earlier
    · have none : w.handles[handle]? = none := List.getElem?_eq_none (Nat.le_of_lt later)
      rw [none, addHandle, List.getElem?_eq_none (by rw [List.length_append]; exact later)]

theorem addHandle_of_some {h there : Handle} {handle : Nat} (found : w.handles[handle]? = some there) :
    (w.addHandle h).handles[handle]? = some there := by
  have := (List.getElem?_eq_some_iff.mp found).1
  rw [getElem?_addHandle, if_neg (by simp only [nextHandle]; omega), found]

theorem Sound.addHandle (sound : w.Sound) {h : Handle}
    (plain : ∀ signal index, h.holding ≠ .subscription signal (.live index)) : (w.addHandle h).Sound where
  registered member := by
    obtain ⟨listener, found⟩ := sound.registered member
    exact ⟨listener, addHandle_of_some found⟩
  ordered := sound.ordered
  watching {handle released signal index} found := by
    rw [getElem?_addHandle] at found
    split at found
    · cases found
      exact absurd rfl (plain signal index)
    · exact sound.watching found
  watched bound opened listening := by
    obtain ⟨member, watch⟩ := sound.watched bound opened listening
    exact ⟨member, addHandle_of_some watch⟩
  named found := by
    obtain ⟨h, there, other⟩ := sound.named found
    exact ⟨h, addHandle_of_some there, other⟩
  heard closed := sound.heard closed
  present current := sound.present current
  asked pending := sound.asked pending

theorem Sound.register (sound : w.Sound) {signal : Signal} {handle : Nat} {listener : Listener}
    (found : w.handles[handle]? = some ⟨false, .subscription signal listener⟩)
    (last : ∀ other ∈ (w.registry signal).handles, other < handle) :
    (w.setRegistry signal ((w.registry signal).add handle)).Sound where
  registered {s other} member := by
    simp only [World.setRegistry] at member
    split at member
    · next same =>
      subst same
      rcases List.mem_append.mp member with before | now
      · exact sound.registered before
      · rw [List.mem_singleton.mp now]
        exact ⟨listener, found⟩
    · exact sound.registered member
  ordered s := by
    simp only [World.setRegistry]
    split
    · next same =>
      simp only [Registry.add, List.pairwise_append]
      refine ⟨sound.ordered _, List.pairwise_singleton .., ?_⟩
      intro other member now same'
      rw [List.mem_singleton.mp same']
      exact last other member
    · exact sound.ordered s
  watching found := sound.watching found
  watched bound opened listening := by
    simp only [World.setRegistry] at listening ⊢
    split at listening
    · next same =>
      subst same
      obtain ⟨member, watch⟩ := sound.watched bound opened listening
      exact ⟨List.mem_append_left _ member, watch⟩
    · next differs =>
      rw [if_neg differs]
      exact sound.watched bound opened listening
  named found := sound.named found
  heard {index} closed := by
    apply sound.heard
    simp only [World.setRegistry] at closed
    rcases closed with closed | closed
    · left
      split at closed
      · next same => exact same ▸ closed
      · exact closed
    · right
      split at closed
      · next same => exact same ▸ closed
      · exact closed
  present current := sound.present current
  asked pending := sound.asked pending

theorem Sound.subscribe (sound : w.Sound) (signal : Signal) {listener : Listener}
    (plain : ∀ index, listener ≠ .live index) : (w.subscribe signal listener).Sound := by
  have added : (w.addHandle ⟨(w.registry signal).closed, .subscription signal listener⟩).Sound := by
    apply sound.addHandle
    rintro s index same
    cases same
    exact plain index rfl
  simp only [World.subscribe]
  split
  · exact added
  · next opened =>
    refine added.register (?_ : _ = some (Handle.mk false (.subscription signal listener))) ?_
    · rw [getElem?_addHandle]
      simp [opened]
    · intro other member
      exact sound.lt_of_registered member

theorem nextHandle_subscribe (w : World) (signal : Signal) (listener : Listener) :
    (w.subscribe signal listener).handles[w.nextHandle]? =
      some ⟨(w.registry signal).closed, .subscription signal listener⟩ := by
  simp only [subscribe]
  split <;> simp [addHandle, setRegistry, nextHandle]

theorem Sound.bind (sound : w.Sound) {name : String} {handle : Nat} {h : Handle}
    (found : w.handles[handle]? = some h)
    (plain : ∀ signal index, h.holding ≠ .subscription signal (.live index)) : (w.bind name handle).Sound where
  registered member := sound.registered member
  ordered := sound.ordered
  watching found := sound.watching found
  watched bound opened listening := sound.watched bound opened listening
  named {other bound} there := by
    simp only [World.bind, Entries.get?_put] at there
    split at there
    · cases there
      exact ⟨h, found, plain⟩
    · exact sound.named there
  heard closed := sound.heard closed
  present current := sound.present current
  asked pending := sound.asked pending

theorem Sound.subscribeAs (sound : w.Sound) (name : String) (signal : Signal) {listener : Listener}
    (plain : ∀ index, listener ≠ .live index) : (w.subscribeAs name signal listener).Sound := by
  refine Sound.bind (sound.subscribe signal plain) (w.nextHandle_subscribe signal listener) ?_
  rintro s index same
  cases same
  exact plain index rfl

/-- No record is there, or the default one for want of it. -/
theorem live_of_le {index : Nat} (outside : w.lives.length ≤ index) : w.live index = default := by
  rw [World.live, List.getD_eq_getElem?_getD, List.getElem?_eq_none outside, Option.getD_none]

theorem live_setLive (w : World) (index other : Nat) (live : Live) :
    (w.setLive index live).live other =
      if index = other ∧ index < w.lives.length then live else w.live other := by
  simp only [World.live, setLive, List.getD_eq_getElem?_getD, List.getElem?_set]
  by_cases same : index = other
  · by_cases bound : index < w.lives.length
    · simp [same, same ▸ bound]
    · rw [List.getElem?_eq_none (by omega : w.lives.length ≤ other)]
      simp [same, same ▸ bound]
  · simp [same]

theorem live_setLive_self {index : Nat} (bound : index < w.lives.length) (live : Live) :
    (w.setLive index live).live index = live := by
  rw [live_setLive, if_pos ⟨rfl, bound⟩]

theorem live_setLive_ne {index other : Nat} (differs : index ≠ other) (live : Live) :
    (w.setLive index live).live other = w.live other := by
  rw [live_setLive, if_neg (fun same => differs same.1)]

@[simp] theorem length_setLive (w : World) (index : Nat) (live : Live) :
    (w.setLive index live).lives.length = w.lives.length := by
  simp [setLive]

/-- A record may change as long as it keeps its handle, does not open again, and is asked
to be read only while it is updated. -/
theorem Sound.setLive (sound : w.Sound) {index : Nat} {live : Live} (watch : live.watch = (w.live index).watch)
    (closed : (w.live index).closed = true → live.closed = true)
    (asked : live.pending = true → live.updating = true) : (w.setLive index live).Sound where
  registered member := sound.registered member
  ordered := sound.ordered
  watching {handle released signal other} found := by
    obtain ⟨follows, bound, here⟩ := sound.watching found
    refine ⟨follows, by simpa using bound, ?_⟩
    rw [live_setLive]
    split
    · next same => rw [watch, same.1, here]
    · exact here
  watched {other} bound opened listening := by
    rw [length_setLive] at bound
    rw [live_setLive] at opened ⊢
    split at opened
    · next same =>
      obtain ⟨rfl, _⟩ := same
      have before : (w.live index).closed = false := by
        cases shut : (w.live index).closed with
        | false => rfl
        | true => rw [closed shut] at opened; cases opened
      rw [if_pos ⟨rfl, bound⟩, watch]
      exact sound.watched bound before listening
    · next differs =>
      rw [if_neg differs]
      exact sound.watched bound opened listening
  named found := sound.named found
  heard {other} shut := by
    obtain ⟨bound, before⟩ := sound.heard shut
    refine ⟨by simpa using bound, ?_⟩
    rw [live_setLive]
    split
    · next same => exact closed (same.1 ▸ before)
    · exact before
  present current := by simpa using sound.present current
  asked {other} pending := by
    rw [live_setLive] at pending ⊢
    split at pending
    · next same =>
      rw [if_pos same]
      exact asked pending
    · next differs =>
      rw [if_neg differs]
      exact sound.asked pending

theorem live_closeLive (w : World) (index other : Nat) :
    (w.closeLive index).live other =
      if index = other ∧ index < w.lives.length then { w.live index with closed := true } else w.live other := by
  simp only [World.closeLive]
  split
  · next closed =>
    split
    · next same => rw [← same.1, ← closed]
    · rfl
  · rw [live_close, live_close, live_release, live_setLive]

@[simp] theorem length_closeLive (w : World) (index : Nat) :
    (w.closeLive index).lives.length = w.lives.length := by
  simp only [World.closeLive]
  split <;> simp

theorem Sound.closeLive (sound : w.Sound) {index : Nat} (bound : index < w.lives.length) :
    (w.closeLive index).Sound := by
  simp only [World.closeLive]
  split
  · exact sound
  · next opened =>
    have shut : (w.setLive index { w.live index with closed := true }).Sound :=
      sound.setLive rfl (fun _ => rfl) sound.asked
    have closed : ((w.setLive index { w.live index with closed := true }).live index).closed = true := by
      rw [live_setLive_self bound]
    have released := shut.release (w.live index).watch (by
      cases listening : (w.registry .settings).closed with
      | true => exact .inl listening
      | false =>
        right
        intro released signal other found
        have watch := (sound.watched bound (Bool.eq_false_iff.mpr opened) listening).2
        cases watch.symm.trans found
        exact closed)
    have last := released.close (.changes index) (by
      rintro other (same | same)
      · cases same
        simpa [bound] using closed
      · cases same)
    refine last.close _ ?_
    rintro other (same | same)
    · cases same
    · cases same
      simpa [bound] using closed

theorem Sound.requestUpdate (sound : w.Sound) (index : Nat) : (w.requestUpdate index).1.Sound := by
  simp only [World.requestUpdate]
  split
  · exact sound
  · split
    · next running => exact sound.setLive rfl id fun _ => running
    · exact sound.setLive rfl id fun _ => rfl

@[simp] theorem length_requestUpdate (w : World) (index : Nat) :
    (w.requestUpdate index).1.lives.length = w.lives.length := by
  simp only [World.requestUpdate]
  split
  · rfl
  · split <;> simp

theorem Sound.endUpdate (sound : w.Sound) (index : Nat) : (w.endUpdate index).Sound :=
  sound.setLive rfl id fun pending => nomatch pending

/-- A handler that is called keeps its subscription. -/
theorem Sound.advance (sound : w.Sound) {handle : Nat} {released : Bool} {signal : Signal} {name : String}
    {sections : List String} {calls later : List (List Action)}
    (found : w.handles[handle]? = some ⟨released, .subscription signal (.handler name sections calls)⟩) :
    World.Sound { w with
      handles := w.handles.set handle ⟨released, .subscription signal (.handler name sections later)⟩ } := by
  have inside : handle < w.handles.length := (List.getElem?_eq_some_iff.mp found).1
  have other {h : Nat} (differs : h ≠ handle) (hs : Handle) :
      (w.handles.set handle hs)[h]? = w.handles[h]? := List.getElem?_set_ne (Ne.symm differs)
  constructor
  · intro s h member
    obtain ⟨listener, there⟩ := sound.registered member
    by_cases same : h = handle
    · subst same
      rw [found] at there
      cases there
      exact ⟨.handler name sections later, by simp [inside]⟩
    · exact ⟨listener, (other same _).trans there⟩
  · exact sound.ordered
  · intro h r s index there
    by_cases same : h = handle
    · subst same
      simp [inside] at there
    · exact sound.watching ((other same _).symm.trans there)
  · intro index bound opened listening
    obtain ⟨member, watch⟩ := sound.watched bound opened listening
    refine ⟨member, (other ?_ _).trans watch⟩
    intro same
    cases (same ▸ watch).symm.trans found
  · intro n h bound
    obtain ⟨hs, there, plain⟩ := sound.named bound
    by_cases same : h = handle
    · subst same
      exact ⟨⟨released, .subscription signal (.handler name sections later)⟩, by simp [inside], by simp⟩
    · exact ⟨hs, (other same _).trans there, plain⟩
  · exact sound.heard
  · exact sound.present
  · exact sound.asked

/-- A world with one more live record, which follows the settings. -/
def withFollower (w : World) : World :=
  { w.subscribe .settings (.live w.lives.length) with lives := w.lives ++ [{ watch := w.nextHandle }] }

theorem makeLive_eq (w : World) : w.makeLive =
    ((w.withFollower.requestUpdate w.lives.length).1,
      (w.withFollower.requestUpdate w.lives.length).2 ++ [.making w.lives.length]) := by
  have lives : (w.subscribe .settings (.live w.lives.length)).lives = w.lives := by
    simp only [World.subscribe]
    split <;> rfl
  simp only [makeLive, withFollower, lives]

theorem live_withFollower (w : World) (index : Nat) :
    w.withFollower.live index = if index = w.lives.length then { watch := w.nextHandle } else w.live index := by
  simp only [World.live, withFollower, List.getD_eq_getElem?_getD]
  by_cases same : index = w.lives.length
  · simp [same]
  · rw [if_neg same]
    rcases Nat.lt_or_gt_of_ne same with earlier | later
    · rw [List.getElem?_append_left earlier]
    · rw [List.getElem?_eq_none (by rw [List.length_append]; exact later),
        List.getElem?_eq_none (Nat.le_of_lt later)]

theorem length_withFollower (w : World) : w.withFollower.lives.length = w.lives.length + 1 := by
  simp [withFollower]

theorem getElem?_withFollower (w : World) (handle : Nat) :
    w.withFollower.handles[handle]? =
      if handle = w.nextHandle then
        some ⟨(w.registry .settings).closed, .subscription .settings (.live w.lives.length)⟩
      else w.handles[handle]? := by
  rw [← getElem?_addHandle]
  simp only [withFollower, World.subscribe]
  split <;> rfl

theorem registry_withFollower (w : World) (signal : Signal) :
    w.withFollower.registry signal =
      if signal = .settings ∧ (w.registry .settings).closed = false then (w.registry .settings).add w.nextHandle
      else w.registry signal := by
  simp only [withFollower, World.subscribe]
  split
  · next closed => simp [closed, addHandle]
  · next opened =>
    simp only [Bool.not_eq_true] at opened
    simp only [opened, setRegistry, and_true, addHandle]

theorem closed_withFollower (w : World) (signal : Signal) :
    (w.withFollower.registry signal).closed = (w.registry signal).closed := by
  rw [registry_withFollower]
  split
  · next same => rw [same.1]; rfl
  · rfl

/-- A live record that is made follows the settings from the start. -/
theorem Sound.withFollower (sound : w.Sound) : w.withFollower.Sound where
  registered {signal handle} member := by
    rw [registry_withFollower] at member
    rw [getElem?_withFollower]
    split at member
    · next own =>
      rcases List.mem_append.mp member with before | now
      · rw [if_neg (Nat.ne_of_lt (sound.lt_of_registered before)), own.1]
        exact sound.registered before
      · rw [if_pos (List.mem_singleton.mp now), own.1, own.2]
        exact ⟨_, rfl⟩
    · rw [if_neg (Nat.ne_of_lt (sound.lt_of_registered member))]
      exact sound.registered member
  ordered signal := by
    rw [registry_withFollower]
    split
    · simp only [Registry.add, List.pairwise_append]
      refine ⟨sound.ordered _, List.pairwise_singleton .., ?_⟩
      intro handle member now same
      rw [List.mem_singleton.mp same]
      exact sound.lt_of_registered member
    · exact sound.ordered signal
  watching {handle released signal index} found := by
    rw [getElem?_withFollower] at found
    rw [length_withFollower, live_withFollower]
    split at found
    · next same =>
      cases found
      exact ⟨rfl, by omega, by rw [if_pos rfl, same]⟩
    · obtain ⟨follows, bound, here⟩ := sound.watching found
      exact ⟨follows, by omega, by rw [if_neg (by omega), here]⟩
  watched {index} bound opened listening := by
    rw [closed_withFollower] at listening
    rw [length_withFollower] at bound
    rw [registry_withFollower, getElem?_withFollower, if_pos ⟨rfl, listening⟩]
    rw [live_withFollower] at opened ⊢
    split at opened
    · next same =>
      rw [if_pos same, listening, same]
      exact ⟨List.mem_append_right _ (List.mem_singleton_self _), if_pos rfl⟩
    · next differs =>
      obtain ⟨member, watch⟩ := sound.watched (by omega) opened listening
      rw [if_neg differs, if_neg (Nat.ne_of_lt (sound.lt_of_registered member))]
      exact ⟨List.mem_append_left _ member, watch⟩
  named {name handle} found := by
    have before : w.names.get? name = some handle := by
      simp only [World.withFollower, World.subscribe] at found
      split at found <;> exact found
    obtain ⟨h, there, plain⟩ := sound.named before
    have bound : handle < w.nextHandle := (List.getElem?_eq_some_iff.mp there).1
    rw [Spare, getElem?_withFollower, if_neg (Nat.ne_of_lt bound)]
    exact ⟨h, there, plain⟩
  heard {index} closed := by
    rw [closed_withFollower, closed_withFollower] at closed
    obtain ⟨bound, shut⟩ := sound.heard closed
    rw [length_withFollower, live_withFollower, if_neg (by omega)]
    exact ⟨by omega, shut⟩
  present {index} current := by
    have before : w.current = some index := by
      simp only [World.withFollower, World.subscribe] at current
      split at current <;> exact current
    have := sound.present before
    rw [length_withFollower]
    omega
  asked {index} pending := by
    rw [live_withFollower] at pending ⊢
    split at pending
    · cases pending
    · next differs =>
      rw [if_neg differs]
      exact sound.asked pending

/-- Every handle of one world is about the same in the other. -/
def Keeps (w v : World) : Prop :=
  ∀ (handle : Nat) (h : Handle), w.handles[handle]? = some h →
    ∃ h', v.handles[handle]? = some h' ∧ h'.holding.subject = h.holding.subject

theorem Keeps.trans {u : World} (first : u.Keeps v) (second : v.Keeps w) : u.Keeps w := by
  intro handle h found
  obtain ⟨between, there, same⟩ := first _ _ found
  obtain ⟨last, here, same'⟩ := second _ _ there
  exact ⟨last, here, same'.trans same⟩

theorem Keeps.of_handles (same : v.handles = w.handles) : w.Keeps v := by
  intro handle h found
  exact ⟨h, same ▸ found, rfl⟩

/-- A subscription stays one to the same signal. -/
theorem Keeps.subscription (keeps : w.Keeps v) {handle : Nat} {released : Bool} {signal : Signal}
    {listener : Listener} (found : w.handles[handle]? = some ⟨released, .subscription signal listener⟩) :
    ∃ released' listener', v.handles[handle]? = some ⟨released', .subscription signal listener'⟩ := by
  obtain ⟨⟨released', holding⟩, there, same⟩ := keeps _ _ found
  obtain ⟨index, here⟩ := Holding.subject_eq_some.mpr ⟨listener, rfl⟩
  obtain ⟨listener', rfl⟩ := Holding.subject_eq_some.mp ⟨index, same.trans here⟩
  exact ⟨released', listener', there⟩

theorem keeps_set {handle : Nat} {before : Handle} (found : w.handles[handle]? = some before) (after : Handle)
    (same : after.holding.subject = before.holding.subject) :
    w.Keeps { w with handles := w.handles.set handle after } := by
  intro other h there
  by_cases here : other = handle
  · subst here
    have inside := (List.getElem?_eq_some_iff.mp there).1
    cases there.symm.trans found
    exact ⟨after, by simp [inside], same⟩
  · exact ⟨h, (List.getElem?_set_ne (Ne.symm here)).trans there, rfl⟩

theorem keeps_addHandle (w : World) (h : Handle) : w.Keeps (w.addHandle h) := by
  intro handle before found
  exact ⟨before, addHandle_of_some found, rfl⟩

theorem keeps_release (w : World) (handle : Nat) : w.Keeps (w.release handle) := by
  rcases w.release_cases handle with same | ⟨holding, log, found, result⟩
  · rw [same]
    exact .of_handles rfl
  · rw [result]
    exact (keeps_set found ⟨true, holding⟩ rfl).trans (.of_handles rfl)

theorem Keeps.spare (keeps : w.Keeps v) {handle : Nat} (spare : w.Spare handle) : v.Spare handle := by
  obtain ⟨h, found, plain⟩ := spare
  obtain ⟨h', there, same⟩ := keeps _ _ found
  refine ⟨h', there, fun signal index live => plain signal index ?_⟩
  exact Holding.subject_eq_live.mp (same.symm.trans (Holding.subject_eq_live.mpr live))

theorem keeps_close (w : World) (signal : Signal) : w.Keeps (w.close signal) := by
  have all (handles : List Nat) (v : World) : v.Keeps (handles.foldl release v) := by
    induction handles generalizing v with
    | nil => exact .of_handles rfl
    | cons handle rest ih => exact (v.keeps_release handle).trans (ih _)
  simp only [close]
  split
  · exact .of_handles rfl
  · exact all (w.registry signal).handles (w.setRegistry signal { w.registry signal with closed := true })

theorem keeps_closeLive (w : World) (index : Nat) : w.Keeps (w.closeLive index) := by
  simp only [closeLive]
  split
  · exact .of_handles rfl
  · refine .trans ?_ (keeps_close _ _)
    refine .trans ?_ (keeps_close _ _)
    exact (w.setLive index { w.live index with closed := true }).keeps_release _

theorem keeps_subscribe (w : World) (signal : Signal) (listener : Listener) :
    w.Keeps (w.subscribe signal listener) := by
  simp only [subscribe]
  split <;> exact w.keeps_addHandle _

end World

end LayeredSettings

import LayeredSettings.Proofs.Session.Subscription
import Mathlib.Data.List.Sort

namespace LayeredSettings

/-- Whether a handle is a subscription to a signal that has not been released. -/
def Handle.listens (signal : Signal) (h : Handle) : Bool := !h.released && h.holding.isTo signal

theorem Handle.listens_iff {signal : Signal} {h : Handle} :
    h.listens signal = true ↔ ∃ listener, h = ⟨false, .subscription signal listener⟩ := by
  obtain ⟨released, holding⟩ := h
  cases holding with
  | subscription source listener => cases released <;> simp [listens, Holding.isTo]
  | alone name parting => simp [listens, Holding.isTo]

namespace World

variable {w v : World} {own : Nat → Prop}

theorem handles_release {handle : Nat} {h : Handle} (found : w.handles[handle]? = some h) :
    (w.release handle).handles = w.handles.set handle { h with released := true } := by
  obtain ⟨released, holding⟩ := h
  obtain ⟨inside, there⟩ := List.getElem?_eq_some_iff.mp found
  unfold release
  rw [found]
  cases released with
  | true => simp [← there]
  | false =>
    cases holding with
    | subscription => rfl
    | alone name => cases name <;> rfl

theorem getElem?_release (w : World) (handle other : Nat) : (w.release handle).handles[other]? =
    if other = handle then (w.handles[other]?).map fun h => { h with released := true } else w.handles[other]? := by
  cases found : w.handles[handle]? with
  | none =>
    have still : w.release handle = w := by simp only [release, found]
    rw [still]
    split
    · next same => rw [same, found]; rfl
    · rfl
  | some h =>
    have inside := (List.getElem?_eq_some_iff.mp found).1
    rw [handles_release found]
    split
    · next same => rw [same, found, List.getElem?_set_self inside]; rfl
    · next differs => rw [List.getElem?_set_ne (Ne.symm differs)]

/-- Each signal knows of the subscriptions to it that have not been released, and of no
others. -/
def Exact (w : World) : Prop :=
  ∀ signal handle, handle ∈ (w.registry signal).handles ↔
    ∃ listener, w.handles[handle]? = some ⟨false, .subscription signal listener⟩

theorem Fresh.exact {start : World} (fresh : start.Fresh) : start.Exact := by
  intro signal handle
  simp [fresh.registry, fresh.handles]

theorem Exact.of_tables (exact : w.Exact) (registry : v.registry = w.registry) (handles : v.handles = w.handles) :
    v.Exact := by
  intro signal handle
  rw [registry, handles]
  exact exact signal handle

/-- A handle that is released leaves the table of its signal, and no other does. -/
theorem Exact.registry_release (exact : w.Exact) (handle : Nat) (signal : Signal) :
    ((w.release handle).registry signal).handles = (w.registry signal).handles.filter (· ≠ handle) := by
  have elsewhere (absent : handle ∉ (w.registry signal).handles) :
      (w.registry signal).handles.filter (· ≠ handle) = (w.registry signal).handles := by
    refine List.filter_eq_self.mpr fun other member => decide_eq_true ?_
    rintro rfl
    exact absent member
  rcases w.release_cases handle with same | ⟨holding, log, found, result⟩
  · rw [same, elsewhere]
    intro member
    obtain ⟨listener, there⟩ := (exact signal handle).mp member
    have gone := w.getElem?_release handle handle
    rw [same, if_pos rfl, there] at gone
    cases gone
  · rw [result]
    simp only
    split
    · rfl
    · next other =>
      refine (elsewhere fun member => ?_).symm
      obtain ⟨listener, there⟩ := (exact signal handle).mp member
      cases found.symm.trans there
      simp [Holding.isTo] at other

theorem Exact.release (exact : w.Exact) (handle : Nat) : (w.release handle).Exact := by
  intro signal other
  rw [exact.registry_release, List.mem_filter, getElem?_release, exact]
  by_cases same : other = handle <;> simp [same]

theorem getElem?_releaseAll (w : World) (handles : List Nat) (other : Nat) :
    (handles.foldl World.release w).handles[other]? =
      if other ∈ handles then (w.handles[other]?).map fun h => { h with released := true } else w.handles[other]? := by
  induction handles generalizing w with
  | nil => simp
  | cons handle rest ih =>
    rw [List.foldl_cons, ih, getElem?_release]
    by_cases first : other = handle <;> by_cases later : other ∈ rest <;> simp [first, later, Function.comp_def]

theorem Exact.registry_releaseAll (exact : w.Exact) (handles : List Nat) (signal : Signal) :
    ((handles.foldl World.release w).registry signal).handles = (w.registry signal).handles.filter (· ∉ handles) := by
  induction handles generalizing w with
  | nil => simp [List.filter_eq_self.mpr]
  | cons handle rest ih =>
    rw [List.foldl_cons, ih (exact.release handle), exact.registry_release, List.filter_filter]
    refine List.filter_congr fun other _ => ?_
    simp [Bool.and_comm]

/-- Closing a signal releases what the signal knows of. -/
theorem getElem?_close (w : World) (signal : Signal) (other : Nat) : (w.close signal).handles[other]? =
    if (w.registry signal).closed = false ∧ other ∈ (w.registry signal).handles then
      (w.handles[other]?).map fun h => { h with released := true }
    else w.handles[other]? := by
  simp only [close]
  split
  · next closed => simp [closed]
  · next opened =>
    rw [setRegistry, getElem?_releaseAll]
    simp [opened, setRegistry]

theorem closed_close (w : World) (signal s : Signal) :
    ((w.close signal).registry s).closed = ((w.registry s).closed || decide (s = signal)) := by
  have all (handles : List Nat) (v : World) :
      ((handles.foldl World.release v).registry s).closed = (v.registry s).closed := by
    induction handles generalizing v with
    | nil => rfl
    | cons handle rest ih => rw [List.foldl_cons, ih, closed_release]
  simp only [close]
  split
  · next closed =>
    by_cases same : s = signal
    · simp [same, closed]
    · simp [same]
  · simp only [setRegistry]
    split
    · next same => simp [same, Registry.close]
    · next differs => simp [all, differs]

/-- Closing a signal leaves it without subscriptions, and the other ones with theirs. -/
theorem Exact.registry_close (exact : w.Exact) (signal s : Signal) : ((w.close signal).registry s).handles =
    if (w.registry signal).closed = false ∧ s = signal then [] else (w.registry s).handles := by
  simp only [World.close]
  split
  · next closed => simp [closed]
  · next opened =>
    simp only [Bool.not_eq_true] at opened
    have marked : (w.setRegistry signal { w.registry signal with closed := true }).Exact := by
      intro other handle
      have before := exact other handle
      simp only [setRegistry]
      split
      · next same => subst same; exact before
      · exact before
    by_cases same : s = signal
    · simp [same, opened, setRegistry, Registry.close]
    · rw [if_neg (by simp [same]), setRegistry]
      simp only [if_neg same]
      rw [marked.registry_releaseAll, setRegistry]
      simp only [if_neg same]
      refine List.filter_eq_self.mpr fun handle member => decide_eq_true fun other => ?_
      obtain ⟨_, here⟩ := (exact s handle).mp member
      obtain ⟨_, there⟩ := (exact signal handle).mp other
      cases here.symm.trans there
      exact same rfl

theorem Exact.close (exact : w.Exact) (signal : Signal) : (w.close signal).Exact := by
  intro s handle
  rw [exact.registry_close, getElem?_close]
  cases opened : (w.registry signal).closed with
  | true => simpa using exact s handle
  | false =>
    by_cases member : handle ∈ (w.registry signal).handles
    · obtain ⟨_, there⟩ := (exact signal handle).mp member
      by_cases same : s = signal
      · simp [same, member, there]
      · have elsewhere : handle ∉ (w.registry s).handles := by
          intro here
          obtain ⟨_, here⟩ := (exact s handle).mp here
          cases here.symm.trans there
          exact same rfl
        simp [same, member, there, elsewhere]
    · by_cases same : s = signal
      · subst same
        simpa [member] using exact s handle
      · simpa [same, member] using exact s handle

theorem Exact.addHandle (exact : w.Exact) {h : Handle}
    (idle : ∀ signal listener, h ≠ ⟨false, .subscription signal listener⟩) : (w.addHandle h).Exact := by
  intro signal handle
  rw [getElem?_addHandle]
  have before := exact signal handle
  split
  · next new =>
    have outside : w.handles[handle]? = none := List.getElem?_eq_none (by rw [new]; exact Nat.le_refl _)
    rw [outside] at before
    simpa [idle, World.addHandle] using before
  · exact before

theorem Exact.subscribe (exact : w.Exact) (signal : Signal) (listener : Listener) :
    (w.subscribe signal listener).Exact := by
  simp only [World.subscribe]
  split
  · next closed => exact exact.addHandle (by simp [closed])
  · next opened =>
    simp only [Bool.not_eq_true] at opened
    intro s handle
    have before := exact s handle
    have found : (w.addHandle ⟨(w.registry signal).closed, .subscription signal listener⟩).handles[handle]? = _ :=
      w.getElem?_addHandle _ handle
    simp only [setRegistry]
    rw [found]
    by_cases new : handle = w.nextHandle
    · have outside : w.handles[handle]? = none := List.getElem?_eq_none (by rw [new]; exact Nat.le_refl _)
      rw [outside] at before
      by_cases same : s = signal
      · simp [same, new, opened, Registry.add]
      · have absent : handle ∉ (w.registry s).handles := by simpa using before
        subst new
        simpa [same, opened, World.addHandle, Ne.symm same] using absent
    · by_cases same : s = signal
      · subst same
        simpa [new, Registry.add] using before
      · simpa [new, same, World.addHandle] using before

theorem Exact.replace (exact : w.Exact) {handle : Nat} {released : Bool} {signal : Signal} {listener : Listener}
    (later : Listener) (found : w.handles[handle]? = some ⟨released, .subscription signal listener⟩) :
    World.Exact { w with handles := w.handles.set handle ⟨released, .subscription signal later⟩ } := by
  intro s other
  have inside := (List.getElem?_eq_some_iff.mp found).1
  have before := exact s other
  by_cases same : other = handle
  · subst same
    rw [found] at before
    simpa [inside] using before
  · simpa [List.getElem?_set_ne (Ne.symm same)] using before

/-- What a signal knows stays exact, whatever is done to handles. -/
theorem Rewires.exact (rewires : w.Rewires own v) (exact : w.Exact) : v.Exact := by
  induction rewires with
  | same registry handles => exact exact.of_tables registry handles
  | hold => exact exact.addHandle (by simp)
  | subscribe signal listener => exact exact.subscribe signal listener
  | replace later found _ => exact exact.replace later found
  | @release _ handle => exact exact.release handle
  | close signal => exact exact.close signal
  | trans _ _ first second => exact second (first exact)

/-- A closed signal knows of no subscriptions. -/
def Shut (w : World) : Prop := ∀ signal, (w.registry signal).closed = true → (w.registry signal).handles = []

theorem Shut.release (shut : w.Shut) (handle : Nat) : (w.release handle).Shut := by
  intro signal closed
  rw [closed_release] at closed
  rcases w.release_cases handle with same | ⟨_, _, _, result⟩
  · rw [same]
    exact shut signal closed
  · rw [result]
    simp only
    split
    · simp [Registry.remove, shut signal closed]
    · exact shut signal closed

theorem Shut.subscribe (shut : w.Shut) (signal : Signal) (listener : Listener) : (w.subscribe signal listener).Shut := by
  intro s closed
  simp only [World.subscribe] at closed ⊢
  split at closed
  · next already =>
    rw [if_pos already]
    exact shut s closed
  · next opened =>
    rw [if_neg opened]
    simp only [setRegistry] at closed ⊢
    split at closed
    · exact absurd closed opened
    · next other =>
      rw [if_neg other]
      exact shut s closed

/-- A closed signal stays closed and without subscriptions, whatever is done to handles. -/
theorem Rewires.shut (rewires : w.Rewires own v) (exact : w.Exact) (shut : w.Shut) : v.Shut := by
  induction rewires with
  | same registry => exact fun signal => by rw [registry]; exact shut signal
  | hold | replace => exact shut
  | subscribe signal listener => exact shut.subscribe signal listener
  | release => exact shut.release _
  | close signal =>
    intro s closed
    rw [exact.registry_close]
    split
    · rfl
    · next other =>
      refine shut s ?_
      rw [closed_close] at closed
      by_cases same : s = signal
      · subst same
        simpa using other
      · simpa [same] using closed
  | trans first _ before after => exact after (first.exact exact) (before exact shut)

theorem Rewires.closed (rewires : w.Rewires own v) {signal : Signal} (closed : (w.registry signal).closed = true) :
    (v.registry signal).closed = true := by
  induction rewires with
  | same registry => rwa [registry]
  | hold | replace => exact closed
  | @subscribe w s listener =>
    simp only [World.subscribe]
    split
    · exact closed
    · simp only [setRegistry]
      split
      · next same => exact same ▸ closed
      · exact closed
  | release => rwa [closed_release]
  | close s => rw [closed_close, closed]; rfl
  | trans _ _ first second => exact second (first closed)

/-- A handle that is released stays released, and what it is about stays. -/
structure Lasts (before after : Handle) : Prop where
  released : before.released = true → after.released = true
  subject : after.holding.subject = before.holding.subject
  alone : ∀ name parting, before.holding = .alone name parting → after.holding = .alone name parting

theorem Rewires.lasts (rewires : w.Rewires own v) {handle : Nat} {h : Handle} (found : w.handles[handle]? = some h) :
    ∃ h', v.handles[handle]? = some h' ∧ Lasts h h' := by
  have marked (h : Handle) : Lasts h { h with released := true } := ⟨fun _ => rfl, rfl, fun _ _ own => own⟩
  induction rewires generalizing h with
  | same _ handles => exact ⟨h, handles ▸ found, id, rfl, fun _ _ own => own⟩
  | hold => exact ⟨h, addHandle_of_some found, id, rfl, fun _ _ own => own⟩
  | @subscribe w signal listener =>
    refine ⟨h, ?_, id, rfl, fun _ _ own => own⟩
    simp only [World.subscribe]
    split <;> exact addHandle_of_some found
  | @replace w other _ _ _ later there same =>
    by_cases own : handle = other
    · subst own
      have inside := (List.getElem?_eq_some_iff.mp found).1
      cases there.symm.trans found
      exact ⟨_, List.getElem?_set_self inside, id, by simp [Holding.subject, same], by simp⟩
    · exact ⟨h, (List.getElem?_set_ne (Ne.symm own)).trans found, id, rfl, fun _ _ own => own⟩
  | @release w other =>
    rw [getElem?_release, found]
    split
    · exact ⟨_, rfl, marked h⟩
    · exact ⟨h, rfl, id, rfl, fun _ _ own => own⟩
  | @close w signal =>
    rw [getElem?_close, found]
    split
    · exact ⟨_, rfl, marked h⟩
    · exact ⟨h, rfl, id, rfl, fun _ _ own => own⟩
  | trans _ _ first second =>
    obtain ⟨between, there, before⟩ := first found
    obtain ⟨last, here, after⟩ := second there
    exact ⟨last, here, after.released ∘ before.released, after.subject.trans before.subject,
      fun name parting own => after.alone name parting (before.alone name parting own)⟩

/-- A handle of no signal is released only on its own. -/
theorem Rewires.alone (rewires : w.Rewires own v) (exact : w.Exact) {handle : Nat} {name : Option String}
    {parting : List Action} (found : w.handles[handle]? = some ⟨false, .alone name parting⟩) (other : ¬ own handle) :
    v.handles[handle]? = some ⟨false, .alone name parting⟩ := by
  induction rewires with
  | same _ handles => exact handles ▸ found
  | hold => exact addHandle_of_some found
  | subscribe signal listener =>
    simp only [World.subscribe]
    split <;> exact addHandle_of_some found
  | replace later there =>
    refine (List.getElem?_set_ne ?_).trans found
    rintro rfl
    cases there.symm.trans found
  | release allowed =>
    rw [getElem?_release, if_neg]
    · exact found
    · rintro rfl
      exact other allowed
  | close signal =>
    rw [getElem?_close, if_neg]
    · exact found
    · rintro ⟨_, member⟩
      obtain ⟨_, there⟩ := (exact signal handle).mp member
      cases there.symm.trans found
  | trans first _ before after => exact after (first.exact exact) (before exact found)

/-- What a signal knows of is what has not been released of the subscriptions made to it, in their
order. -/
theorem Exact.handles_eq (exact : w.Exact) (sound : w.Sound) (signal : Signal) :
    (w.registry signal).handles = w.handles.findIdxs (Handle.listens signal) := by
  refine (sound.ordered signal).eq_of_mem_iff List.pairwise_findIdxs fun handle => ?_
  rw [exact, List.mem_findIdxs_iff_exists_getElem_pos]
  simp only [List.getElem?_eq_some_iff, Handle.listens_iff]
  exact exists_comm

theorem Rewires.isReleased (rewires : w.Rewires own v) {handle : Nat} (there : handle < w.nextHandle)
    (released : w.isReleased handle = true) : v.isReleased handle = true := by
  have found : w.handles[handle]? = some w.handles[handle] := List.getElem?_eq_getElem there
  obtain ⟨h, later, lasts⟩ := rewires.lasts found
  simp only [World.isReleased, found] at released
  simp only [World.isReleased, later]
  exact lasts.released released

end World

end LayeredSettings

import LayeredSettings.Proofs.Session.Loop

namespace LayeredSettings

namespace World

/-- All that can be done to handles and to what signals know of them, if no handles but some are
released on their own. A handler may be replaced by what is left of it. -/
inductive Rewires (own : Nat → Prop) : World → World → Prop
  | same {w v : World} : v.registry = w.registry → v.handles = w.handles → Rewires own w v
  | hold {w : World} (released : Bool) (name : Option String) (parting : List Action) :
      Rewires own w (w.addHandle ⟨released, .alone name parting⟩)
  | subscribe {w : World} (signal : Signal) (listener : Listener) : Rewires own w (w.subscribe signal listener)
  | replace {w : World} {handle : Nat} {released : Bool} {signal : Signal} {listener : Listener} (later : Listener) :
      w.handles[handle]? = some ⟨released, .subscription signal listener⟩ →
      later.index? = listener.index? →
      Rewires own w { w with handles := w.handles.set handle ⟨released, .subscription signal later⟩ }
  | release {w : World} {handle : Nat} : own handle → Rewires own w (w.release handle)
  | close {w : World} (signal : Signal) : Rewires own w (w.close signal)
  | trans {u v w : World} : Rewires own u v → Rewires own v w → Rewires own u w

variable {w v : World} {own : Nat → Prop}

theorem rewires_closeLive {index : Nat} (watch : own (w.live index).watch) :
    w.Rewires own (w.closeLive index) := by
  simp only [closeLive]
  split
  · exact .same rfl rfl
  · have marked : w.Rewires own (w.setLive index { w.live index with closed := true }) := .same rfl rfl
    exact ((marked.trans (.release watch)).trans (.close _)).trans (.close _)

theorem rewires_subscribeAs (w : World) (name : String) (signal : Signal) (listener : Listener) :
    w.Rewires own (w.subscribeAs name signal listener) :=
  (Rewires.subscribe signal listener).trans (.same rfl rfl)

theorem rewires_subscribeShared (w : World) (names : List String) :
    w.Rewires own (names.foldl (fun w name => w.subscribeAs name .plain (.handler "same" [] [])) w) := by
  induction names generalizing w with
  | nil => exact .same rfl rfl
  | cons name rest ih => exact (w.rewires_subscribeAs ..).trans (ih _)

theorem rewires_requestUpdate (w : World) (index : Nat) : w.Rewires own (w.requestUpdate index).1 := by
  simp only [requestUpdate]
  split
  · exact .same rfl rfl
  · split <;> exact .same rfl rfl

theorem rewires_makeLive (w : World) : w.Rewires own w.makeLive.1 := by
  rw [makeLive_eq]
  have made : w.Rewires own w.withFollower := (Rewires.subscribe _ _).trans (.same rfl rfl)
  exact made.trans (rewires_requestUpdate _ _)

theorem rewires_change (w : World) (layers : Layers) : w.Rewires own (w.change layers).world := by
  rcases w.change_cases layers with ⟨_, same⟩ | ⟨_, same⟩ <;> rw [same] <;> exact .same rfl rfl

theorem rewires_replaceLayers (w : World) (data : List (Layer × List (Scalar × Value))) :
    w.Rewires own (w.replaceLayers data).world := by
  unfold replaceLayers
  split
  · exact w.rewires_change _
  · exact .same rfl rfl

/-- The handle that an action releases on its own, rather than with its signal. -/
def releases? (w : World) : Action → Option Nat
  | .release name => w.names.get? name
  | .closeLive => w.current.map fun index => (w.live index).watch
  | _ => none

theorem rewires_perform (w : World) (action : Action) :
    w.Rewires (fun handle => w.releases? action = some handle) (w.perform action).world := by
  cases action with
  | subscribe | onSettings => exact w.rewires_subscribeAs ..
  | subscribeShared names => exact w.rewires_subscribeShared names
  | holdFor => exact (Rewires.hold _ _ _).trans (.same rfl rfl)
  | release name =>
    simp only [perform, forHandle]
    split
    · next handle bound =>
      rcases w.letGo_cases handle (.answered .null) with ⟨_, same⟩ | ⟨_, same⟩ <;> rw [same] <;> exact .release bound
    · exact .same rfl rfl
  | onChange | onFailure | refresh =>
    simp only [perform, forCurrent]
    split
    · first
        | exact w.rewires_subscribeAs ..
        | exact w.rewires_requestUpdate _
    · exact .same rfl rfl
  | closeLive =>
    simp only [perform, forCurrent]
    split
    · next index current => exact rewires_closeLive (by simp [releases?, current])
    · exact .same rfl rfl
  | closeSignal | closeSettings => exact .close _
  | openLive | withLive => exact w.rewires_makeLive
  | turnTo | layer | resolve | within =>
    simp only [perform, forHandle]
    split <;> exact .same rfl rfl
  | update key value =>
    simp only [perform]
    split
    · exact .same rfl rfl
    · exact w.rewires_change _
  | setLayers layers =>
    simp only [perform]
    split
    · exact .same rfl rfl
    · exact w.rewires_replaceLayers _
  | reload =>
    simp only [perform]
    split
    · exact .same rfl rfl
    · exact .trans (v := { w with readings := w.readings + filesRead }) (.same rfl rfl) (rewires_replaceLayers _ _)
  | fire | fail | attempt | get | getIn | keys | folders | projectDirectory | write | delete => exact .same rfl rfl

/-- Handles stay, and no signal gets one that was there before without being its own. -/
structure Grows (w v : World) : Prop where
  handles : w.nextHandle ≤ v.nextHandle
  registered : ∀ {signal handle}, handle ∈ (v.registry signal).handles →
    handle ∈ (w.registry signal).handles ∨ w.nextHandle ≤ handle

theorem Grows.of_tables (registry : v.registry = w.registry) (handles : v.handles = w.handles) : w.Grows v where
  handles := Nat.le_of_eq (by simp only [nextHandle, handles])
  registered member := .inl (registry ▸ member)

theorem Grows.trans {u : World} (first : u.Grows v) (second : v.Grows w) : u.Grows w where
  handles := Nat.le_trans first.handles second.handles
  registered member := by
    rcases second.registered member with before | new
    · exact first.registered before
    · exact .inr (Nat.le_trans first.handles new)

/-- A handle that a signal has kept it has had all along. -/
theorem Grows.mem_of_mem (grows : w.Grows v) {signal : Signal} {handle : Nat} (old : handle < w.nextHandle)
    (kept : handle ∈ (v.registry signal).handles) : handle ∈ (w.registry signal).handles := by
  rcases grows.registered kept with before | new
  · exact before
  · omega

theorem Grows.setRegistry (grows : w.Grows v) {signal : Signal} {r : Registry}
    (fewer : r.handles.Sublist (v.registry signal).handles) : w.Grows (v.setRegistry signal r) where
  handles := grows.handles
  registered {s handle} member := by
    apply grows.registered
    simp only [World.setRegistry] at member
    split at member
    · next same => exact same ▸ fewer.subset member
    · exact member

theorem grows_release (w : World) (handle : Nat) : w.Grows (w.release handle) := by
  rcases w.release_cases handle with same | ⟨holding, _, _, result⟩
  · rw [same]
    exact .of_tables rfl rfl
  · rw [result]
    refine ⟨Nat.le_of_eq (by simp [nextHandle]), fun {signal other} member => .inl ?_⟩
    simp only at member
    split at member
    · exact (List.mem_filter.mp member).1
    · exact member

theorem grows_releaseAll (w : World) (handles : List Nat) : w.Grows (handles.foldl release w) := by
  induction handles generalizing w with
  | nil => exact .of_tables rfl rfl
  | cons handle rest ih => exact (w.grows_release handle).trans (ih _)

theorem grows_close (w : World) (signal : Signal) : w.Grows (w.close signal) := by
  simp only [close]
  split
  · exact .of_tables rfl rfl
  · have shut : w.Grows (w.setRegistry signal { w.registry signal with closed := true }) :=
      Grows.setRegistry (.of_tables rfl rfl) (List.Sublist.refl _)
    exact (shut.trans (grows_releaseAll _ _)).setRegistry (List.nil_sublist _)

theorem grows_addHandle (w : World) (h : Handle) : w.Grows (w.addHandle h) :=
  ⟨by simp [nextHandle, addHandle], .inl⟩

theorem grows_subscribe (w : World) (signal : Signal) (listener : Listener) :
    w.Grows (w.subscribe signal listener) := by
  simp only [subscribe]
  split
  · exact w.grows_addHandle _
  · refine ⟨by simp [nextHandle, addHandle, setRegistry], fun {s handle} member => ?_⟩
    simp only [setRegistry] at member
    split at member
    · next same =>
      subst same
      rcases List.mem_append.mp member with old | new
      · exact .inl old
      · exact .inr (Nat.le_of_eq (List.mem_singleton.mp new).symm)
    · exact .inl member

theorem Rewires.grows (rewires : w.Rewires own v) : w.Grows v := by
  induction rewires with
  | same registry handles => exact .of_tables registry handles
  | hold => exact grows_addHandle _ _
  | subscribe signal listener => exact grows_subscribe _ signal listener
  | replace => exact ⟨Nat.le_of_eq (by simp [nextHandle]), .inl⟩
  | @release _ handle => exact grows_release _ handle
  | close signal => exact grows_close _ signal
  | trans _ _ first second => exact first.trans second

end World

namespace Machine

/-- The handle that the step to come releases on its own. -/
def releases? (m : Machine) : Option Nat :=
  match m.mode, m.stack with
  | .answered _, .actions (action :: _) :: _ => m.world.releases? action
  | _, .releasing handle _ :: _ => some handle
  | _, .leaving index :: _ => some (m.world.live index).watch
  | .failing _, .making index :: _ => some (m.world.live index).watch
  | _, _ => none

theorem rewires_step {m next : Machine} (step : m.step? = some next) :
    m.world.Rewires (fun handle => m.releases? = some handle) next.world := by
  cases moves step with
  | act performed =>
    rw [← performed]
    exact World.rewires_perform _ _
  | @call w _ _ _ _ _ _ _ _ name sections calls _ found =>
    simp only [World.call, found]
    exact (World.Rewires.replace (.handler name sections (calls.drop 1)) found rfl).trans (.same rfl rfl)
  | follow => exact World.rewires_requestUpdate _ _
  | left | unmade | unleft => exact World.rewires_closeLive rfl
  | released | parted | dropReleasing | interrupted => exact .release rfl
  | _ => exact .same rfl rfl

theorem grows_step {m next : Machine} (step : m.step? = some next) : m.world.Grows next.world :=
  (rewires_step step).grows

namespace Onward

variable {first m : Machine} {during : List Machine}

theorem grows (path : first.Onward during m) : first.world.Grows m.world := by
  induction path with
  | start => exact .of_tables rfl rfl
  | step _ step ih => exact ih.trans (grows_step step)
  | act _ _ _ ih => exact ih

/-- A handle that a signal has at the beginning and at the end it has all the time. -/
theorem registered (path : first.Onward during m) {signal : Signal} {handle : Nat}
    (old : handle < first.world.nextHandle) (kept : handle ∈ (m.world.registry signal).handles)
    {passed : Machine} (member : passed ∈ during) : handle ∈ (passed.world.registry signal).handles := by
  have before {m : Machine} {during : List Machine} (path : first.Onward during m) : handle < m.world.nextHandle :=
    Nat.lt_of_lt_of_le old path.grows.handles
  induction path with
  | start => simp at member
  | step path step ih =>
    have here := (grows_step step).mem_of_mem (before path) kept
    rcases List.mem_cons.mp member with rfl | earlier
    · exact here
    · exact ih here earlier
  | act action path _ ih =>
    rcases List.mem_cons.mp member with rfl | earlier
    · exact kept
    · exact ih kept earlier

end Onward

end Machine

end LayeredSettings

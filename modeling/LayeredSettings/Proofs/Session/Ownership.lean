import LayeredSettings.Proofs.Session.Parting

namespace LayeredSettings

namespace Handle

variable {h : Handle} {index : Nat}

/-- The live record that a handle belongs to: it has given the handle out, or follows the settings
through it. -/
def owner? (h : Handle) : Option Nat :=
  match h.holding.subject with
  | some (.changes index, _) => some index
  | some (.failures index, _) => some index
  | some (.settings, index) => index
  | _ => none

theorem owner_eq_some : h.owner? = some index ↔ h.holding = .subscription .settings (.live index) ∨
    h.holding.isTo (.changes index) = true ∨ h.holding.isTo (.failures index) = true := by
  obtain ⟨released, holding⟩ := h
  cases holding with
  | alone name parting => simp [owner?, Holding.subject, Holding.isTo]
  | subscription signal listener =>
    cases signal <;> cases listener <;> simp [owner?, Holding.subject, Holding.isTo, Listener.index?]

/-- The handle, released if it was or is to be. -/
def releasedIf (h : Handle) (yes : Bool) : Handle := { h with released := h.released || yes }

@[simp] theorem holding_releasedIf (h : Handle) (yes : Bool) : (h.releasedIf yes).holding = h.holding := rfl

@[simp] theorem releasedIf_releasedIf (h : Handle) (first second : Bool) :
    (h.releasedIf first).releasedIf second = h.releasedIf (first || second) := by
  simp [releasedIf, Bool.or_assoc]

theorem releasedIf_of_released (released : h.released = true) (yes : Bool) : h.releasedIf yes = h := by
  obtain ⟨_, holding⟩ := h
  simp only at released
  simp [releasedIf, released]

end Handle

namespace World

variable {n index : Nat} {w v : World}

/-- The live record that a handle belongs to. -/
def owner? (w : World) (handle : Nat) : Option Nat := w.handles[handle]?.bind Handle.owner?

theorem owner_eq_some {handle : Nat} :
    w.owner? handle = some index ↔ ∃ h, w.handles[handle]? = some h ∧ h.owner? = some index := by
  simp [World.owner?, Option.bind_eq_some_iff]

theorem owner_of_found {handle : Nat} {h : Handle} (found : w.handles[handle]? = some h) :
    w.owner? handle = h.owner? := by
  simp only [owner?, found, Option.bind_some]

theorem isReleased_of_found {handle : Nat} {h : Handle} (found : w.handles[handle]? = some h) :
    w.isReleased handle = h.released := by
  simp only [isReleased, found]

theorem lt_of_closed (closed : (w.live index).closed = true) : index < w.lives.length := by
  rcases Nat.lt_or_ge index w.lives.length with bound | outside
  · exact bound
  · rw [live_of_le outside] at closed
    cases closed

/-- The handles that belong to a live record belong to one of the first `n`. -/
def Within (n : Nat) (w : World) : Prop := ∀ h ∈ w.handles, ∀ index, h.owner? = some index → index < n

namespace Within

theorem mono {n' : Nat} (within : w.Within n) (le : n ≤ n') : w.Within n' :=
  fun h member index own => Nat.lt_of_lt_of_le (within h member index own) le

theorem of_handles (within : w.Within n) (handles : v.handles = w.handles) : v.Within n := by
  unfold Within
  rw [handles]
  exact within

/-- Handles stay with their records, and there are no new ones. -/
theorem of_keeps (within : w.Within n) (keeps : w.Keeps v) (length : v.handles.length = w.handles.length) :
    v.Within n := by
  intro h member index own
  obtain ⟨handle, bound, there⟩ := List.mem_iff_getElem.mp member
  have found : w.handles[handle]? = some w.handles[handle] := List.getElem?_eq_getElem (length ▸ bound)
  obtain ⟨later, here, same⟩ := keeps _ _ found
  rw [List.getElem?_eq_getElem bound, there] at here
  cases here
  refine within _ (List.getElem_mem (length ▸ bound)) index ?_
  rw [Handle.owner?, ← same]
  exact own

theorem addHandle (within : w.Within n) {h : Handle} (own : ∀ index, h.owner? = some index → index < n) :
    (w.addHandle h).Within n := by
  intro other member
  rcases List.mem_append.mp member with before | new
  · exact within other before
  · rw [List.mem_singleton.mp new]
    exact own

theorem subscribeAs (within : w.Within n) (name : String) (signal : Signal) (listener : Listener)
    (own : ∀ released index, Handle.owner? ⟨released, .subscription signal listener⟩ = some index → index < n) :
    (w.subscribeAs name signal listener).Within n := by
  have added : (w.addHandle ⟨(w.registry signal).closed, .subscription signal listener⟩).Within n :=
    within.addHandle (own _)
  refine added.of_handles ?_
  simp only [World.subscribeAs, World.subscribe, World.bind]
  split <;> rfl

end Within

@[simp] theorem length_handles_release (w : World) (handle : Nat) :
    (w.release handle).handles.length = w.handles.length := by
  rcases w.release_cases handle with same | ⟨_, _, _, result⟩
  · rw [same]
  · rw [result, List.length_set]

@[simp] theorem length_handles_close (w : World) (signal : Signal) :
    (w.close signal).handles.length = w.handles.length := by
  have all (handles : List Nat) (v : World) : (handles.foldl release v).handles.length = v.handles.length := by
    induction handles generalizing v with
    | nil => rfl
    | cons handle rest ih => rw [List.foldl_cons, ih, length_handles_release]
  simp only [close]
  split
  · rfl
  · exact all _ _

@[simp] theorem length_handles_closeLive (w : World) (index : Nat) :
    (w.closeLive index).handles.length = w.handles.length := by
  simp only [closeLive]
  split
  · rfl
  · simp [setLive]

@[simp] theorem handles_requestUpdate (w : World) (index : Nat) : (w.requestUpdate index).1.handles = w.handles := by
  simp only [requestUpdate]
  split
  · rfl
  · split <;> rfl

theorem registry_requestUpdate (w : World) (index : Nat) : (w.requestUpdate index).1.registry = w.registry := by
  simp only [requestUpdate]
  split
  · rfl
  · split <;> rfl

@[simp] theorem handles_change (w : World) (layers : Layers) : (w.change layers).world.handles = w.handles := by
  rcases w.change_cases layers with ⟨_, same⟩ | ⟨_, same⟩ <;> rw [same] <;> rfl

@[simp] theorem handles_replaceLayers (w : World) (data : List (Layer × List (Scalar × Value))) :
    (w.replaceLayers data).world.handles = w.handles := by
  unfold replaceLayers
  split
  · exact w.handles_change _
  · rfl

theorem Within.subscribeShared (within : w.Within n) (names : List String) :
    (names.foldl (fun w name => w.subscribeAs name .plain (.handler "same" [] [])) w).Within n := by
  induction names generalizing w with
  | nil => exact within
  | cons name rest ih => exact ih (within.subscribeAs name .plain _ (by simp [Handle.owner?, Holding.subject]))

theorem Within.release (within : w.Within n) (handle : Nat) : (w.release handle).Within n :=
  within.of_keeps (w.keeps_release handle) (w.length_handles_release handle)

theorem Within.closeLive (within : w.Within n) (index : Nat) : (w.closeLive index).Within n :=
  within.of_keeps (w.keeps_closeLive index) (w.length_handles_closeLive index)

theorem Within.makeLive (within : w.Within n) (room : w.lives.length < n) : w.makeLive.1.Within n := by
  rw [makeLive_eq]
  refine of_handles (w := w.addHandle ⟨(w.registry .settings).closed, .subscription .settings (.live w.lives.length)⟩)
    (within.addHandle ?_) ?_
  · intro index own
    cases own
    exact room
  · rw [handles_requestUpdate]
    simp only [withFollower, World.subscribe]
    split <;> rfl

/-- An action gives out handles only for records that are there. -/
theorem Within.perform (within : w.Within n) (sound : w.Sound) (action : Action) (le : w.lives.length ≤ n)
    (room : (w.perform action).world.lives.length ≤ n) : (w.perform action).world.Within n := by
  cases action with
  | subscribe name calls => exact within.subscribeAs _ _ _ (by simp [Handle.owner?, Holding.subject])
  | onSettings name sections calls =>
    exact within.subscribeAs _ _ _ (by simp [Handle.owner?, Holding.subject, Listener.index?])
  | subscribeShared names => exact within.subscribeShared names
  | holdFor => exact (within.addHandle (by simp [Handle.owner?, Holding.subject])).of_handles rfl
  | release name =>
    simp only [World.perform, forHandle]
    split
    · next handle _ =>
      rcases w.letGo_cases handle (.answered .null) with ⟨_, same⟩ | ⟨_, same⟩ <;> rw [same] <;>
        exact within.release handle
    · exact within
  | onChange | onFailure =>
    simp only [World.perform, forCurrent]
    split
    · next index current =>
      have bound := sound.present current
      refine within.subscribeAs _ _ _ fun released other own => ?_
      simp only [Handle.owner?, Holding.subject, Option.some.injEq] at own
      omega
    · exact within
  | refresh =>
    simp only [World.perform, forCurrent]
    split
    · exact within.of_handles (handles_requestUpdate _ _)
    · exact within
  | closeLive =>
    simp only [World.perform, forCurrent]
    split
    · exact within.closeLive _
    · exact within
  | closeSignal | closeSettings => exact within.of_keeps (w.keeps_close _) (w.length_handles_close _)
  | openLive | withLive => exact within.makeLive (Nat.lt_of_succ_le (by simpa [World.perform] using room))
  | update key value =>
    simp only [World.perform]
    split
    · exact within
    · exact within.of_handles (w.handles_change _)
  | setLayers layers =>
    simp only [World.perform]
    split
    · exact within
    · exact within.of_handles (w.handles_replaceLayers _)
  | reload =>
    simp only [World.perform]
    split
    · exact within
    · exact within.of_handles (handles_replaceLayers _ _)
  | turnTo | layer | resolve | within =>
    simp only [World.perform, forHandle]
    split <;> exact within
  | fire | fail | attempt | get | getIn | keys | folders | projectDirectory | write | delete => exact within

end World

namespace Machine

variable {m next : Machine}

theorem Sound.within_step (sound : m.Sound) (step : m.step? = some next)
    (within : m.world.Within m.world.lives.length) : next.world.Within next.world.lives.length := by
  have longer := length_step step
  replace within := within.mono longer
  cases moves step with
  | act performed =>
    subst performed
    exact within.perform sound.tables _ longer (Nat.le_refl _)
  | call _ found =>
    refine within.of_keeps (World.alike_call _ _ found).keeps ?_
    simp [World.call, found, World.note]
  | follow => exact within.of_handles (World.handles_requestUpdate _ _)
  | left | unmade | unleft => exact within.closeLive _
  | released | parted | dropReleasing | interrupted => exact within.release _
  | _ => exact within.of_handles rfl

end Machine

/-- The handles of a session belong to live records that are there. -/
theorem Course.within {start : World} {past : List Machine} {m : Machine} (course : Course start past m)
    (fresh : start.Fresh) : m.world.Within m.world.lives.length := by
  induction course with
  | start action => exact fun h member => by simp [World.doing, fresh.handles] at member
  | act _ _ _ ih => exact ih
  | step course step ih => exact (course.sound fresh).within_step step ih

end LayeredSettings

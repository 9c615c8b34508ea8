import LayeredSettings.Session.Step

namespace LayeredSettings

/-- The sum of a quantity over a list. -/
def total (f : α → Nat) (l : List α) : Nat := l.foldr (fun a sum => f a + sum) 0

@[simp] theorem total_nil (f : α → Nat) : total f [] = 0 := rfl

@[simp] theorem total_cons (f : α → Nat) (a : α) (l : List α) : total f (a :: l) = f a + total f l := rfl

@[simp] theorem total_append (f : α → Nat) (l m : List α) : total f (l ++ m) = total f l + total f m := by
  induction l with
  | nil => simp
  | cons a rest ih => simp only [List.cons_append, total_cons, ih, Nat.add_assoc]

theorem total_set (f : α → Nat) (l : List α) (i : Nat) (a b : α) (h : l[i]? = some b) :
    total f (l.set i a) + f b = total f l + f a := by
  induction l generalizing i with
  | nil => simp at h
  | cons c rest ih =>
    cases i with
    | zero => simp at h; subst h; simp; omega
    | succ i =>
      simp only [List.getElem?_cons_succ] at h
      simp only [List.set_cons_succ, total_cons]
      have := ih i h
      omega

theorem total_set_le (f : α → Nat) (l : List α) (i : Nat) (a : α)
    (h : ∀ b, l[i]? = some b → f a ≤ f b) : total f (l.set i a) ≤ total f l := by
  cases e : l[i]? with
  | none =>
    exact Nat.le_of_eq (congrArg (total f) (List.set_eq_of_length_le (List.getElem?_eq_none_iff.mp e)))
  | some b =>
    have := total_set f l i a b e
    have := h b e
    omega

theorem total_set_same (f : α → Nat) (l : List α) (i : Nat) (a : α)
    (h : ∀ b, l[i]? = some b → f a = f b) : total f (l.set i a) = total f l := by
  cases e : l[i]? with
  | none => rw [List.set_eq_of_length_le (List.getElem?_eq_none_iff.mp e)]
  | some b =>
    have := total_set f l i a b e
    have := h b e
    omega

namespace Live

/-- One for a record that is to be read again. -/
def due (live : Live) : Nat := if live.pending then 1 else 0

end Live

namespace Frame

/-- The actions a frame still has to do. -/
def weight : Frame → Nat
  | .actions rest => actionsWeight rest
  | _ => 0

/-- The subscriptions a change of settings is still to be told to. -/
def told : Frame → Nat
  | .notify _ (.keys _) rest => rest.length
  | _ => 0

def follows : Frame → Nat
  | .following _ => 1
  | _ => 0

/-- The steps a frame takes if nothing is done in between. -/
def steps : Frame → Nat
  | .notify _ _ rest => 2 * rest.length + 1
  | .releasing .. => 3
  | _ => 1

end Frame

namespace World

/-- The actions that handlers will do at calls to come. -/
def weight (w : World) : Nat := total Handle.weight w.handles

/-- The number of records that are to be read again. -/
def due (w : World) : Nat := total Live.due w.lives

@[simp] theorem weight_setRegistry (w : World) (signal : Signal) (r : Registry) :
    (w.setRegistry signal r).weight = w.weight := rfl

@[simp] theorem due_setRegistry (w : World) (signal : Signal) (r : Registry) :
    (w.setRegistry signal r).due = w.due := rfl

@[simp] theorem weight_note (w : World) (entry : Entry) : (w.note entry).weight = w.weight := rfl

@[simp] theorem due_note (w : World) (entry : Entry) : (w.note entry).due = w.due := rfl

@[simp] theorem weight_bind (w : World) (name : String) (handle : Nat) :
    (w.bind name handle).weight = w.weight := rfl

@[simp] theorem weight_logAll (w : World) (messages : List LogMessage) :
    (w.logAll messages).weight = w.weight := by
  unfold logAll
  split <;> rfl

@[simp] theorem due_logAll (w : World) (messages : List LogMessage) :
    (w.logAll messages).due = w.due := by
  unfold logAll
  split <;> rfl

@[simp] theorem weight_setLive (w : World) (index : Nat) (live : Live) :
    (w.setLive index live).weight = w.weight := rfl

@[simp] theorem weight_addHandle (w : World) (handle : Handle) :
    (w.addHandle handle).weight = w.weight + handle.weight := by
  simp [weight, addHandle]

theorem live_eq {w : World} {index : Nat} {live : Live} (h : w.lives[index]? = some live) :
    w.live index = live := by
  simp [World.live, List.getD, h]

/-- Changing a record without asking for it to be read again makes none due. -/
theorem due_setLive_le (w : World) (index : Nat) (live : Live)
    (h : live.due ≤ (w.live index).due) : (w.setLive index live).due ≤ w.due := by
  apply total_set_le
  intro b found
  rwa [live_eq found] at h

theorem due_setLive_same (w : World) (index : Nat) (live : Live)
    (h : live.due = (w.live index).due) : (w.setLive index live).due = w.due := by
  apply total_set_same
  intro b found
  rwa [live_eq found] at h

/-- A record that is read is due no longer. -/
theorem due_setLive_lt (w : World) (index : Nat) (live : Live)
    (due : (w.live index).pending = true) (done : live.pending = false) :
    (w.setLive index live).due < w.due := by
  cases found : w.lives[index]? with
  | none =>
    simp only [World.live, List.getD, found, Option.getD_none] at due
    exact absurd due (by decide)
  | some b =>
    rw [live_eq found] at due
    have := total_set Live.due w.lives index live b found
    simp only [Live.due, due, done, if_true] at this
    simp only [World.due, setLive]
    simp only [Bool.false_eq_true, if_false] at this
    exact Nat.lt_of_lt_of_eq (Nat.lt_succ_self _) this

@[simp] theorem weight_subscribe (w : World) (signal : Signal) (listener : Listener) :
    (w.subscribe signal listener).weight = w.weight + listener.weight := by
  unfold subscribe
  simp only []
  split <;> simp [Handle.weight]

@[simp] theorem weight_subscribeAs (w : World) (name : String) (signal : Signal)
    (listener : Listener) :
    (w.subscribeAs name signal listener).weight = w.weight + listener.weight := by
  simp [subscribeAs]

/-- What is to be done when a handle is released goes from the handle to whoever does it. -/
theorem weight_release (w : World) (handle : Nat) :
    (w.release handle).weight + actionsWeight (w.parting handle) = w.weight := by
  unfold release
  split
  · next none => simp [parting_of_none none, actionsWeight]
  · next h found =>
    obtain ⟨released, holding⟩ := h
    rw [parting_of_some found]
    cases released with
    | true => simp [Handle.parting, actionsWeight]
    | false =>
      have moved := total_set Handle.weight w.handles handle ⟨true, holding⟩ _ found
      cases holding with
      | subscription => simpa [weight, setRegistry, Handle.weight, Handle.parting, actionsWeight] using moved
      | alone name actions =>
        cases name <;> simpa [weight, note, Handle.weight, Handle.parting, actionsWeight] using moved

theorem weight_release_le (w : World) (handle : Nat) : (w.release handle).weight ≤ w.weight := by
  have := w.weight_release handle
  omega

@[simp] theorem due_release (w : World) (handle : Nat) : (w.release handle).due = w.due := by
  unfold release
  split
  · rfl
  · split
    · rfl
    · split <;> rfl

theorem weight_releaseAll_le (w : World) (handles : List Nat) : (handles.foldl release w).weight ≤ w.weight := by
  induction handles generalizing w with
  | nil => exact Nat.le_refl _
  | cons handle rest ih => exact Nat.le_trans (ih _) (w.weight_release_le handle)

@[simp] theorem due_releaseAll (w : World) (handles : List Nat) :
    (handles.foldl release w).due = w.due := by
  induction handles generalizing w with
  | nil => rfl
  | cons handle rest ih => simp [ih]

theorem weight_close_le (w : World) (signal : Signal) : (w.close signal).weight ≤ w.weight := by
  unfold close
  split
  · exact Nat.le_refl _
  · exact weight_releaseAll_le (w.setRegistry signal { w.registry signal with closed := true }) _

@[simp] theorem due_close (w : World) (signal : Signal) : (w.close signal).due = w.due := by
  unfold close
  split <;> simp

theorem weight_closeLive_le (w : World) (index : Nat) : (w.closeLive index).weight ≤ w.weight := by
  unfold closeLive
  simp only []
  split
  · exact Nat.le_refl _
  · have released := (w.setLive index { w.live index with closed := true }).weight_release_le (w.live index).watch
    exact Nat.le_trans (weight_close_le _ _) (Nat.le_trans (weight_close_le _ _) released)

@[simp] theorem due_closeLive (w : World) (index : Nat) : (w.closeLive index).due = w.due := by
  unfold closeLive
  simp only []
  split
  · rfl
  · simp only [due_close, due_release]
    exact due_setLive_same _ _ _ rfl

theorem due_endUpdate_le (w : World) (index : Nat) : (w.endUpdate index).due ≤ w.due := by
  apply due_setLive_le
  simp [Live.due]

@[simp] theorem weight_endUpdate (w : World) (index : Nat) :
    (w.endUpdate index).weight = w.weight := rfl

@[simp] theorem weight_notification (w : World) (signal : Signal) (event : Event) :
    total Frame.weight (w.notification signal event) = 0 := by
  unfold notification
  simp only []
  split <;> simp [Frame.weight]

@[simp] theorem follows_notification (w : World) (signal : Signal) (event : Event) :
    total Frame.follows (w.notification signal event) = 0 := by
  unfold notification
  simp only []
  split <;> simp [Frame.follows]

@[simp] theorem told_notification_record (w : World) (signal : Signal) (r : OverrideRecord) :
    total Frame.told (w.notification signal (.record r)) = 0 := by
  unfold notification
  simp only []
  split <;> simp [Frame.told]

@[simp] theorem told_notification_failure (w : World) (signal : Signal) (f : Failure) :
    total Frame.told (w.notification signal (.failure f)) = 0 := by
  unfold notification
  simp only []
  split <;> simp [Frame.told]

theorem weight_requestUpdate (w : World) (index : Nat) :
    (w.requestUpdate index).1.weight + total Frame.weight (w.requestUpdate index).2 = w.weight := by
  unfold requestUpdate
  simp only []
  split
  · simp
  · split <;> simp [Frame.weight]

theorem weight_change (w : World) (layers : Layers) :
    (w.change layers).world.weight + total Frame.weight (w.change layers).frames = w.weight := by
  unfold change
  simp only []
  split
  · simp [weight, enforce]
  · split <;> simp [weight, enforce]

theorem weight_replaceLayers (w : World) (data : List (Layer × List (Scalar × Value))) :
    (w.replaceLayers data).world.weight + total Frame.weight (w.replaceLayers data).frames =
      w.weight := by
  unfold replaceLayers
  split
  · exact w.weight_change _
  · rfl

theorem weight_makeLive (w : World) :
    w.makeLive.1.weight + total Frame.weight w.makeLive.2 = w.weight := by
  unfold makeLive
  simp only [total_append, total_cons, total_nil, Frame.weight, Nat.add_zero, weight_requestUpdate]
  exact w.weight_subscribe .settings (.live w.lives.length)

theorem weight_forCurrent (w : World) (act : Nat → Outcome) (n : Nat)
    (h : ∀ index, (act index).world.weight + total Frame.weight (act index).frames < w.weight + (n + 1)) :
    (w.forCurrent act).world.weight + total Frame.weight (w.forCurrent act).frames <
      w.weight + (n + 1) := by
  unfold forCurrent
  split
  · exact h _
  · simp

theorem weight_forHandle (w : World) (name : String) (act : Nat → Outcome)
    (h : ∀ handle, (act handle).world.weight + total Frame.weight (act handle).frames = w.weight) :
    (w.forHandle name act).world.weight + total Frame.weight (w.forHandle name act).frames = w.weight := by
  unfold forHandle
  split
  · exact h _
  · simp

theorem weight_letGo (w : World) (handle : Nat) (mode : Mode) :
    (w.letGo handle mode).world.weight + total Frame.weight (w.letGo handle mode).frames = w.weight := by
  have moved := w.weight_release handle
  unfold letGo
  split
  · next none => simpa [none, actionsWeight] using moved
  · simpa [Frame.weight] using moved

theorem weight_subscribeShared (w : World) (names : List String) :
    (names.foldl (fun w name => w.subscribeAs name .plain (.handler "same" [] [])) w).weight =
      w.weight := by
  induction names generalizing w with
  | nil => rfl
  | cons name rest ih =>
    rw [List.foldl_cons, ih]
    simp [Listener.weight, callsWeight]

/-- An action is done when it has been performed; only those it contains are left. -/
theorem weight_perform (w : World) (action : Action) :
    (w.perform action).world.weight + total Frame.weight (w.perform action).frames <
      w.weight + action.weight := by
  cases action <;> simp only [perform, Action.weight]
  case subscribe => simp [Listener.weight]
  case subscribeShared => simp [weight_subscribeShared]
  case holdFor name logged parting =>
    cases logged <;> simp [Handle.weight, Handle.parting, actionsWeight]
  case fire => simp
  case closeSignal =>
    have := w.weight_close_le .plain
    simp only [total_nil]
    omega
  case release name =>
    have := w.weight_forHandle name (fun handle => w.letGo handle (.answered .null))
      fun handle => w.weight_letGo handle _
    omega
  case within name body =>
    unfold forHandle
    split <;> simp [Frame.weight]
  case fail => simp
  case attempt => simp [Frame.weight]
  case turnTo => split <;> simp [weight]
  case openLive =>
    have := w.weight_makeLive
    omega
  case withLive body =>
    have := w.weight_makeLive
    simp only [total_append, total_cons, total_nil, Frame.weight]
    omega
  case onChange name calls =>
    apply weight_forCurrent
    intro index
    simp [Listener.weight]
  case onFailure name calls =>
    apply weight_forCurrent
    intro index
    simp [Listener.weight]
  case onSettings => simp [Listener.weight]
  case refresh =>
    apply weight_forCurrent w _ 0
    intro index
    have := w.weight_requestUpdate index
    simp only []
    omega
  case closeLive =>
    apply weight_forCurrent w _ 0
    intro index
    have := w.weight_closeLive_le index
    simp only [total_nil]
    omega
  case update key value =>
    split
    · simp
    · have := w.weight_change (w.layers.update key value)
      omega
  case setLayers layers =>
    split
    · simp
    · next data _ =>
      have := w.weight_replaceLayers data
      omega
  case reload =>
    split
    · simp
    · next data _ =>
      have := ({ w with readings := w.readings + filesRead } : World).weight_replaceLayers data
      have same : ({ w with readings := w.readings + filesRead } : World).weight = w.weight := rfl
      omega
  case closeSettings =>
    have := w.weight_close_le .settings
    simp only [total_nil]
    omega
  case layer =>
    split <;> simp
  case resolve =>
    split <;> simp
  case write => simp [setNode, weight]
  case delete => simp [setNode, weight]
  all_goals simp

theorem callsWeight_drop (calls : List (List Action)) :
    callsWeight (calls.drop 1) + actionsWeight (calls.headD []) = callsWeight calls := by
  cases calls with
  | nil => simp [callsWeight, actionsWeight]
  | cons actions rest => simp [callsWeight, Nat.add_comm]

theorem weight_follow (w : World) (index : Nat) (event : Event) :
    (w.follow index event).1.weight + total Frame.weight (w.follow index event).2 = w.weight := by
  unfold follow
  split
  · split
    · simp only [total_append, total_cons, total_nil, Frame.weight, Nat.add_zero]
      exact w.weight_requestUpdate index
    · rfl
  · rfl

/-- The calls of a handler are done when they are handed out. -/
theorem weight_call (w : World) (handle : Nat) (event : Event) :
    (w.call handle event).1.weight + total Frame.weight (w.call handle event).2 = w.weight := by
  unfold call
  split
  · next released signal name sections calls found =>
    have moved := total_set Handle.weight w.handles handle
      ⟨released, .subscription signal (.handler name sections (calls.drop 1))⟩ _ found
    simp only [Handle.weight, Listener.weight] at moved
    have := callsWeight_drop calls
    simp only [weight_note, total_cons, total_nil, Frame.weight]
    simp only [weight]
    omega
  · exact w.weight_follow _ event
  · rfl

theorem due_call_of_handled (w : World) (handle : Nat) (event : Event)
    (other : ∀ keys, event ≠ .keys keys) :
    (w.call handle event).1.due = w.due ∧ total Frame.follows (w.call handle event).2 = 0 ∧
      total Frame.steps (w.call handle event).2 ≤ 1 ∧ total Frame.told (w.call handle event).2 = 0 := by
  unfold call
  split
  · exact ⟨rfl, rfl, Nat.le_refl 1, rfl⟩
  · unfold follow
    split
    · next keys => exact absurd rfl (other keys)
    · exact ⟨rfl, rfl, Nat.zero_le 1, rfl⟩
  · exact ⟨rfl, rfl, Nat.zero_le 1, rfl⟩

theorem told_requestUpdate (w : World) (index : Nat) :
    total Frame.told (w.requestUpdate index).2 = 0 := by
  unfold requestUpdate
  simp only []
  split
  · rfl
  · split <;> rfl

theorem told_call (w : World) (handle : Nat) (event : Event) :
    total Frame.told (w.call handle event).2 = 0 := by
  unfold call
  split
  · rfl
  · unfold follow
    split
    · split
      · simp only [total_append, told_requestUpdate]
        rfl
      · rfl
    · rfl
  · rfl

end World

namespace Machine

/-- What bounds the steps still to come, the weightiest first: the actions left, the
subscriptions a change of settings is still to be told to, the live records that
react to one, the records to be read again, and the steps of the frames. -/
def potential (m : Machine) : Nat × Nat × Nat × Nat × Nat :=
  (m.world.weight + total Frame.weight m.stack, total Frame.told m.stack,
    total Frame.follows m.stack, m.world.due, total Frame.steps m.stack)

end Machine

/-- Lexicographic order of potentials. -/
def PotentialLt (p q : Nat × Nat × Nat × Nat × Nat) : Prop :=
  Prod.Lex (· < ·) (Prod.Lex (· < ·) (Prod.Lex (· < ·) (Prod.Lex (· < ·) (· < ·)))) p q

theorem potentialLt_wf : WellFounded PotentialLt :=
  (Prod.lex ⟨_, Nat.lt_wfRel.wf⟩ (Prod.lex ⟨_, Nat.lt_wfRel.wf⟩ (Prod.lex ⟨_, Nat.lt_wfRel.wf⟩
    (Prod.lex ⟨_, Nat.lt_wfRel.wf⟩ ⟨_, Nat.lt_wfRel.wf⟩)))).wf

/-- A potential is less if one part is less and those before it are not greater. -/
theorem potentialLt_of {a b c d e a' b' c' d' e' : Nat}
    (h : a < a' ∨ a ≤ a' ∧ (b < b' ∨ b ≤ b' ∧ (c < c' ∨ c ≤ c' ∧ (d < d' ∨ d ≤ d' ∧ e < e')))) :
    PotentialLt (a, b, c, d, e) (a', b', c', d', e') := by
  simp only [PotentialLt, Prod.lex_def]
  omega

namespace World

/-- What a frame leaves of a potential when it goes on or fails: less than it had. -/
def Lessens (w : World) (frame : Frame) (outcome : Outcome) : Prop :=
  ∀ rest : List Frame,
    PotentialLt (Machine.potential ⟨outcome.world, outcome.mode, outcome.frames ++ rest⟩)
      (Machine.potential ⟨w, outcome.mode, frame :: rest⟩)

theorem lessens_of {w : World} {frame : Frame} {outcome : Outcome}
    (h : outcome.world.weight + total Frame.weight outcome.frames < w.weight + frame.weight ∨
      outcome.world.weight + total Frame.weight outcome.frames ≤ w.weight + frame.weight ∧
      (total Frame.told outcome.frames < frame.told ∨ total Frame.told outcome.frames ≤ frame.told ∧
      (total Frame.follows outcome.frames < frame.follows ∨
        total Frame.follows outcome.frames ≤ frame.follows ∧
      (outcome.world.due < w.due ∨ outcome.world.due ≤ w.due ∧
        total Frame.steps outcome.frames < frame.steps)))) : Lessens w frame outcome := by
  intro rest
  simp only [Machine.potential]
  apply potentialLt_of
  simp only [total_append, total_cons]
  omega

@[simp] theorem weight_publish (w : World) (index : Nat) (r : OverrideRecord) :
    (w.publish index r).1.weight = w.weight := by
  simp [publish]

@[simp] theorem due_publish (w : World) (index : Nat) (r : OverrideRecord) :
    (w.publish index r).1.due = w.due := by
  simp only [publish, due_logAll]
  exact due_setLive_same _ _ _ rfl

@[simp] theorem frames_publish (w : World) (index : Nat) (r : OverrideRecord) :
    total Frame.weight (w.publish index r).2 = 0 ∧ total Frame.told (w.publish index r).2 = 0 ∧
      total Frame.follows (w.publish index r).2 = 0 := by
  simp [publish]

@[simp] theorem weight_reportFailure (w : World) (index : Nat) (f : Failure) :
    (w.reportFailure index f).1.weight = w.weight := by
  simp [reportFailure]

@[simp] theorem due_reportFailure (w : World) (index : Nat) (f : Failure) :
    (w.reportFailure index f).1.due = w.due := by
  simp [reportFailure]

@[simp] theorem frames_reportFailure (w : World) (index : Nat) (f : Failure) :
    total Frame.weight (w.reportFailure index f).2 = 0 ∧
      total Frame.told (w.reportFailure index f).2 = 0 ∧
      total Frame.follows (w.reportFailure index f).2 = 0 := by
  simp [reportFailure]

theorem lessens_turn (w : World) (index : Nat) (queued : Bool) :
    Lessens w (.updating index queued) (w.turn index queued) := by
  apply lessens_of
  unfold turn
  simp only []
  split
  · next going =>
    have pending : (w.live index).pending = true := by
      simp only [Bool.and_eq_true] at going
      exact going.1
    have read : (w.setLive index { w.live index with pending := false }).due < w.due :=
      due_setLive_lt _ _ _ pending rfl
    have kept : (w.setLive index { w.live index with pending := false }).weight = w.weight := rfl
    generalize w.setLive index { w.live index with pending := false } = v at read kept
    right
    split
    · refine ⟨by simp [Frame.weight, kept], .inr ⟨by simp [Frame.told], .inr ⟨by simp [Frame.follows], .inl ?_⟩⟩⟩
      simpa using read
    · split
      · refine ⟨by simp [Frame.weight, kept], .inr ⟨by simp [Frame.told], .inr ⟨by simp [Frame.follows], .inl ?_⟩⟩⟩
        simpa using read
      · refine ⟨by simp [Frame.weight, kept], .inr ⟨by simp [Frame.told], .inr ⟨by simp [Frame.follows], .inl ?_⟩⟩⟩
        refine Nat.lt_of_le_of_lt (due_endUpdate_le _ _) ?_
        simpa using read
  · have := w.due_endUpdate_le index
    simp [Frame.weight, Frame.told, Frame.follows, Frame.steps]
    omega

theorem lessens_letGo (w : World) (handle : Nat) (shown : Value) (mode : Mode) :
    Lessens w (.releasing handle shown) (w.letGo handle mode) := by
  apply lessens_of
  right
  refine ⟨by simp [weight_letGo, Frame.weight], ?_⟩
  unfold letGo
  split <;> simp [Frame.told, Frame.follows, Frame.steps]

theorem lessens_resume (w : World) (v : Value) (frame : Frame) :
    Lessens w frame (w.resume v frame) := by
  cases frame with
  | actions actions =>
    cases actions with
    | nil =>
      apply lessens_of
      simp [resume, Frame.weight, Frame.told, Frame.follows, Frame.steps]
    | cons action rest =>
      apply lessens_of
      left
      have := w.weight_perform action
      simp only [resume, total_append, total_cons, total_nil, Frame.weight, actionsWeight]
      omega
  | attempting =>
    apply lessens_of
    simp [resume, Frame.weight, Frame.told, Frame.follows, Frame.steps]
  | notify signal event handles =>
    cases handles with
    | nil =>
      apply lessens_of
      cases event <;> simp [resume, Frame.weight, Frame.told, Frame.follows, Frame.steps]
    | cons handle rest =>
      apply lessens_of
      right
      simp only [resume]
      split
      · cases event <;> simp [Frame.weight, Frame.told, Frame.follows, Frame.steps]
      · have weighed := w.weight_call handle event
        have told := w.told_call handle event
        simp only [total_append, total_cons, total_nil, Frame.weight, told]
        refine ⟨by omega, ?_⟩
        have handled := w.due_call_of_handled handle event
        cases event with
        | keys keys => left; simp [Frame.told]
        | value _ | record _ | failure _ =>
          obtain ⟨due, follows, steps, _⟩ := handled (by intro keys; simp)
          simp only [Frame.told, Frame.follows, Frame.steps, List.length_cons]
          omega
  | updating index queued => exact w.lessens_turn index queued
  | following index =>
    apply lessens_of
    simp [resume, Frame.weight, Frame.told, Frame.follows, Frame.steps]
  | making index =>
    apply lessens_of
    simp [resume, Frame.weight, Frame.told, Frame.follows, Frame.steps, weight, due]
  | leaving index =>
    have := w.weight_closeLive_le index
    apply lessens_of
    simp [resume, Frame.weight, Frame.told, Frame.follows, Frame.steps]
    omega
  | releasing handle shown => exact w.lessens_letGo handle shown _
  | ending mode =>
    apply lessens_of
    simp [resume, Frame.weight, Frame.told, Frame.follows, Frame.steps]

theorem lessens_unwind (w : World) (f : Failure) (frame : Frame) :
    Lessens w frame (w.unwind f frame) := by
  cases frame with
  | actions rest =>
    apply lessens_of
    simp [unwind, Frame.weight, Frame.told, Frame.follows, Frame.steps]
  | attempting =>
    apply lessens_of
    simp [unwind, Frame.weight, Frame.told, Frame.follows, Frame.steps]
  | notify signal event handles =>
    apply lessens_of
    cases event <;> simp [unwind, Frame.weight, Frame.told, Frame.follows, Frame.steps]
  | updating index queued =>
    have := w.due_endUpdate_le index
    apply lessens_of
    simp [unwind, Frame.weight, Frame.told, Frame.follows, Frame.steps]
    omega
  | following index =>
    apply lessens_of
    simp only [unwind]
    split <;> simp [Frame.weight, Frame.told, Frame.follows, Frame.steps]
  | making index | leaving index =>
    have := w.weight_closeLive_le index
    apply lessens_of
    simp [unwind, Frame.weight, Frame.told, Frame.follows, Frame.steps]
    omega
  | releasing handle shown => exact w.lessens_letGo handle shown _
  | ending mode =>
    apply lessens_of
    simp [unwind, Frame.weight, Frame.told, Frame.follows, Frame.steps]

end World

namespace Machine

/-- Every step lessens the potential, so every run ends. -/
theorem potential_step? {m next : Machine} (h : m.step? = some next) :
    PotentialLt next.potential m.potential := by
  unfold step? at h
  split at h
  · cases h
  · next frame rest stack =>
    cases h
    have same (mode : Mode) : m.potential = Machine.potential ⟨m.world, mode, frame :: rest⟩ := by
      simp only [potential, stack]
    rw [same (.answered .null)]
    cases m.mode with
    | answered v => exact m.world.lessens_resume v frame rest
    | failing f => exact m.world.lessens_unwind f frame rest

end Machine

end LayeredSettings

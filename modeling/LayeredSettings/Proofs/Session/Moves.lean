import LayeredSettings.Proofs.Session.Handles

namespace LayeredSettings

namespace World

/-- What a reading of the settings in force comes to. -/
def reading (w : World) : Except Failure OverrideRecord := (readOverride w.settings w.context).1

/-- The session with another log. -/
def withLog (w : World) (log : List Entry) : World := { w with log }

/-- A world has the layers of another one, all that a reading depends on, and the loader of documents. -/
structure SameStore (w v : World) : Prop where
  layers : v.layers = w.layers
  context : v.context = w.context
  loader : v.host.loader = w.host.loader

theorem settings_of_context {w v : World} (same : v.context = w.context) : v.settings = w.settings := by
  have settings : v.context.settings = w.context.settings := by rw [same]
  simpa [context] using settings

theorem SameStore.trans {u v w : World} (first : u.SameStore v) (second : v.SameStore w) : u.SameStore w :=
  ⟨second.layers.trans first.layers, second.context.trans first.context, second.loader.trans first.loader⟩

theorem sameStore_subscribeAs (w : World) (name : String) (signal : Signal) (listener : Listener) :
    w.SameStore (w.subscribeAs name signal listener) := by
  simp only [subscribeAs, subscribe]
  split <;> exact ⟨rfl, rfl, rfl⟩

theorem sameStore_subscribeShared (w : World) (names : List String) :
    w.SameStore (names.foldl (fun w name => w.subscribeAs name .plain (.handler "same" [] [])) w) := by
  induction names generalizing w with
  | nil => exact ⟨rfl, rfl, rfl⟩
  | cons name rest ih => exact (w.sameStore_subscribeAs ..).trans (ih _)

theorem sameStore_release (w : World) (handle : Nat) : w.SameStore (w.release handle) := by
  rcases w.release_cases handle with same | ⟨_, _, _, result⟩
  · rw [same]
    exact ⟨rfl, rfl, rfl⟩
  · rw [result]
    exact ⟨rfl, rfl, rfl⟩

theorem sameStore_close (w : World) (signal : Signal) : w.SameStore (w.close signal) := by
  have all (handles : List Nat) (v : World) : v.SameStore (handles.foldl release v) := by
    induction handles generalizing v with
    | nil => exact ⟨rfl, rfl, rfl⟩
    | cons handle rest ih => exact (v.sameStore_release handle).trans (ih _)
  simp only [close]
  split
  · exact ⟨rfl, rfl, rfl⟩
  · obtain ⟨layers, context, loader⟩ :=
      all (w.registry signal).handles (w.setRegistry signal { w.registry signal with closed := true })
    exact ⟨layers, context, loader⟩

theorem sameStore_requestUpdate (w : World) (index : Nat) : w.SameStore (w.requestUpdate index).1 := by
  simp only [requestUpdate]
  split
  · exact ⟨rfl, rfl, rfl⟩
  · split <;> exact ⟨rfl, rfl, rfl⟩

theorem sameStore_makeLive (w : World) : w.SameStore w.makeLive.1 := by
  rw [makeLive_eq]
  refine SameStore.trans ?_ (sameStore_requestUpdate _ _)
  simp only [withFollower, subscribe]
  split <;> exact ⟨rfl, rfl, rfl⟩

theorem sameStore_closeLive (w : World) (index : Nat) : w.SameStore (w.closeLive index) := by
  simp only [closeLive]
  split
  · exact ⟨rfl, rfl, rfl⟩
  · have released := sameStore_release (w.setLive index { w.live index with closed := true }) (w.live index).watch
    obtain ⟨layers, context, loader⟩ := (released.trans (sameStore_close _ (.changes index))).trans
      (sameStore_close _ (.failures index))
    exact ⟨layers, context, loader⟩

/-- A world has the live records of another one, all that a reading depends on, and the loader of
documents; its tables are sound if those of the other one are, and it keeps the subscriptions. -/
structure Alike (w v : World) : Prop where
  lives : v.lives = w.lives
  settings : v.settings = w.settings
  context : v.context = w.context
  loader : v.host.loader = w.host.loader
  sound : w.Sound → v.Sound
  keeps : w.Keeps v

theorem Alike.refl (w : World) : w.Alike w := ⟨rfl, rfl, rfl, rfl, id, .of_handles rfl⟩

theorem alike_subscribeAs (w : World) (name : String) (signal : Signal) (other : String)
    (sections : List String) (calls : List (List Action)) :
    w.Alike (w.subscribeAs name signal (.handler other sections calls)) where
  lives := by simp only [subscribeAs, subscribe]; split <;> rfl
  settings := settings_of_context (w.sameStore_subscribeAs ..).context
  context := (w.sameStore_subscribeAs ..).context
  loader := (w.sameStore_subscribeAs ..).loader
  sound sound := sound.subscribeAs name signal (by simp)
  keeps := w.keeps_subscribe signal _

theorem alike_subscribeShared (w : World) (names : List String) :
    w.Alike (names.foldl (fun w name => w.subscribeAs name .plain (.handler "same" [] [])) w) := by
  induction names generalizing w with
  | nil => exact .refl w
  | cons name rest ih =>
    have first := w.alike_subscribeAs name .plain "same" [] []
    have others := ih (w.subscribeAs name .plain (.handler "same" [] []))
    exact ⟨others.lives.trans first.lives, others.settings.trans first.settings,
      others.context.trans first.context, others.loader.trans first.loader, others.sound ∘ first.sound,
      first.keeps.trans others.keeps⟩

/-- Only the release of a handle that serves a live record is about the record. -/
theorem alike_release (w : World) {handle : Nat} (spare : w.Sound → w.Spare handle) :
    w.Alike (w.release handle) where
  lives := w.lives_release handle
  settings := settings_of_context (w.sameStore_release handle).context
  context := (w.sameStore_release handle).context
  loader := (w.sameStore_release handle).loader
  sound sound := sound.release _ (.inr (by
    intro released signal index found
    obtain ⟨h, there, plain⟩ := spare sound
    cases there.symm.trans found
    exact absurd rfl (plain signal index)))
  keeps := w.keeps_release handle

/-- The signals that are not those of a live record may be closed without one. -/
theorem alike_close (w : World) {signal : Signal} (other : signal = .plain ∨ signal = .settings) :
    w.Alike (w.close signal) where
  lives := w.lives_close signal
  settings := settings_of_context (w.sameStore_close signal).context
  context := (w.sameStore_close signal).context
  loader := (w.sameStore_close signal).loader
  sound sound := sound.close _ (by rcases other with rfl | rfl <;> simp)
  keeps := w.keeps_close signal

theorem alike_setNode (w : World) (p : Path) (node : Option Node) : w.Alike (w.setNode p node) :=
  ⟨rfl, rfl, rfl, rfl, fun sound => sound.of_tables rfl rfl rfl rfl rfl, .of_handles rfl⟩

theorem alike_call (w : World) {handle : Nat} (event : Event) {released : Bool} {signal : Signal}
    {name : String} {sections : List String} {calls : List (List Action)}
    (found : w.handles[handle]? = some ⟨released, .subscription signal (.handler name sections calls)⟩) :
    w.Alike (w.call handle event).1 := by
  simp only [call, found]
  refine ⟨rfl, rfl, rfl, rfl, fun sound => ?_, keeps_set found ⟨_, .subscription signal (.handler name sections _)⟩ rfl⟩
  exact (sound.advance found).of_tables rfl rfl rfl rfl rfl

/-- The tables are not what layers are about. -/
theorem Sound.enforce {w : World} (sound : w.Sound) (layers : Layers) : (w.enforce layers).Sound :=
  sound.of_tables rfl rfl rfl rfl rfl

/-- What putting layers in force comes to. Where it fails, they are in force already. -/
theorem change_cases (w : World) (layers : Layers) :
    (neverDiffer w.settings layers.effective = true ∧
      w.change layers = ⟨w.enforce layers, .failing (.valueFault .endless), []⟩) ∨
    (neverDiffer w.settings layers.effective = false ∧
      w.change layers = ⟨w.enforce layers, .answered .null,
        if (changedKeys w.settings layers.effective).isEmpty then []
        else w.notification .settings (.keys (changedKeys w.settings layers.effective))⟩) := by
  cases endless : neverDiffer w.settings layers.effective with
  | true => exact .inl ⟨rfl, by simp [change, enforce, endless]⟩
  | false =>
    refine .inr ⟨rfl, ?_⟩
    cases none : (changedKeys w.settings layers.effective).isEmpty with
    | true => simp [change, enforce, endless, none]
    | false =>
      simp only [change, enforce, endless, none, Bool.false_eq_true, if_false]
      rfl

/-- The layers an action puts in force, if it gets so far. -/
def enforced? (w : World) : Action → Option Layers
  | .update key value =>
    match entryFault? value with
    | some _ => none
    | none => some (w.layers.update key value)
  | .setLayers layers =>
    match namedLayers layers with
    | .error _ => none
    | .ok data =>
      match data.findSome? fun layer => entriesFault? layer.2 with
      | some _ => none
      | none => some (w.layers.replace data)
  | .reload =>
    match w.host.fileLayers (w.readings + filesRead) w.projectDirectory with
    | .error _ => none
    | .ok data =>
      match data.findSome? fun layer => entriesFault? layer.2 with
      | some _ => none
      | none => some (w.layers.replace data)
  | _ => none

/-- What an action can come to: something that concerns no live record, new layers in
force, or what it does to a live record. -/
inductive Deed (w : World) (action : Action) : Outcome → Prop
  | quiet {v : World} (mode : Mode) :
      w.enforced? action = none → w.Alike v → Deed w action ⟨v, mode, []⟩
  | fire (value : Value) :
      w.enforced? action = none → Deed w action ⟨w, .answered .null, w.notification .plain (.value value)⟩
  | attempt (body : List Action) :
      w.enforced? action = none → Deed w action ⟨w, .answered .null, [.actions body, .attempting]⟩
  | change {v : World} {layers : Layers} :
      w.enforced? action = some layers → w.Alike v → v.registry = w.registry →
      Deed w action (v.change layers)
  | close {index : Nat} :
      w.enforced? action = none → w.current = some index →
      Deed w action ⟨w.closeLive index, .answered .null, []⟩
  | refresh {index : Nat} :
      action = .refresh → w.current = some index →
      Deed w action ⟨(w.requestUpdate index).1, .answered .null, (w.requestUpdate index).2⟩
  | make :
      w.enforced? action = none → Deed w action ⟨w.makeLive.1, .answered .null, w.makeLive.2⟩
  | makeWith (body : List Action) :
      w.enforced? action = none →
      Deed w action ⟨w.makeLive.1, .answered .null, w.makeLive.2 ++ [.actions body, .leaving w.lives.length]⟩
  | letGo {handle : Nat} (mode : Mode) :
      w.enforced? action = none → (w.Sound → w.Spare handle) →
      Deed w action ⟨w.release handle, .answered .null, [.actions (w.parting handle), .ending mode]⟩
  | within {handle : Nat} (body : List Action) (shown : Value) :
      w.enforced? action = none → (w.Sound → w.Spare handle) →
      Deed w action ⟨w, .answered .null, [.actions body, .releasing handle shown]⟩

/-- A release goes on only where something is to be done on it. -/
theorem letGo_cases (w : World) (handle : Nat) (mode : Mode) :
    (w.parting handle = [] ∧ w.letGo handle mode = ⟨w.release handle, mode, []⟩) ∨
    (w.parting handle ≠ [] ∧ w.letGo handle mode =
      ⟨w.release handle, .answered .null, [.actions (w.parting handle), .ending mode]⟩) := by
  unfold letGo
  split
  · next none => exact .inl ⟨none, rfl⟩
  · next some => exact .inr ⟨some, rfl⟩

theorem deed_forHandle {w : World} {action : Action} (other : w.enforced? action = none) {name : String}
    {act : Nat → Outcome} (quiet : ∀ handle, w.names.get? name = some handle → Deed w action (act handle)) :
    Deed w action (w.forHandle name act) := by
  unfold forHandle
  split
  · next handle bound => exact quiet handle bound
  · exact .quiet _ other (.refl w)

theorem deed_forCurrent {w : World} {action : Action} (other : w.enforced? action = none)
    {act : Nat → Outcome} (done : ∀ index, w.current = some index → Deed w action (act index)) :
    Deed w action (w.forCurrent act) := by
  unfold forCurrent
  split
  · next current => exact done _ current
  · exact .quiet _ other (.refl w)

theorem deed_replaceLayers {w v : World} {action : Action} {data : List (Layer × List (Scalar × Value))}
    (puts : w.enforced? action =
      match data.findSome? fun layer => entriesFault? layer.2 with
      | some _ => none
      | none => some (w.layers.replace data))
    (layers : v.layers = w.layers) (alike : w.Alike v) (registry : v.registry = w.registry) :
    Deed w action (v.replaceLayers data) := by
  unfold replaceLayers
  split
  · next fine =>
    rw [fine] at puts
    rw [layers]
    exact .change puts alike registry
  · next fault =>
    rw [fault] at puts
    exact .quiet _ puts ⟨alike.lives, alike.settings, alike.context, alike.loader, fun sound =>
      (alike.sound sound).of_tables rfl rfl rfl rfl rfl, alike.keeps⟩

theorem deed_perform (w : World) (action : Action) : Deed w action (w.perform action) := by
  cases action with
  | subscribe name calls => exact .quiet _ rfl (w.alike_subscribeAs ..)
  | subscribeShared names => exact .quiet _ rfl (w.alike_subscribeShared names)
  | holdFor name logged parting =>
    refine .quiet _ rfl ⟨rfl, rfl, rfl, rfl, fun sound => ?_, w.keeps_addHandle _⟩
    refine Sound.bind (sound.addHandle (by simp)) ((w.getElem?_addHandle _ _).trans (if_pos rfl)) ?_
    simp
  | fire v => exact .fire v rfl
  | closeSignal => exact .quiet _ rfl (w.alike_close (by simp))
  | release name =>
    refine deed_forHandle rfl fun handle bound => ?_
    have spare (sound : w.Sound) : w.Spare handle := sound.named bound
    rcases w.letGo_cases handle (.answered .null) with ⟨_, same⟩ | ⟨_, same⟩
    · rw [same]
      exact .quiet _ rfl (w.alike_release spare)
    · rw [same]
      exact .letGo _ rfl spare
  | within name body => exact deed_forHandle rfl fun handle bound => .within body _ rfl fun sound => sound.named bound
  | fail failure => exact .quiet _ rfl (.refl w)
  | attempt body => exact .attempt body rfl
  | openLive => exact .make rfl
  | withLive body =>
    have made := @Deed.makeWith w (.withLive body) body rfl
    simpa only [perform] using made
  | onChange name calls => exact deed_forCurrent rfl fun index _ => .quiet _ rfl (w.alike_subscribeAs ..)
  | onFailure name calls => exact deed_forCurrent rfl fun index _ => .quiet _ rfl (w.alike_subscribeAs ..)
  | onSettings name sections calls => exact .quiet _ rfl (w.alike_subscribeAs ..)
  | turnTo live =>
    simp only [perform]
    split
    · next bound =>
      refine .quiet _ rfl ⟨rfl, rfl, rfl, rfl, fun sound => ?_, .of_handles rfl⟩
      exact { sound with present := fun current => Option.some.inj current ▸ bound }
    · exact .quiet _ rfl (.refl w)
  | refresh => exact deed_forCurrent rfl fun index current => .refresh rfl current
  | closeLive => exact deed_forCurrent rfl fun index current => .close rfl current
  | update key value =>
    simp only [perform]
    split
    · next fault => exact .quiet _ (by simp only [enforced?, fault]) (.refl w)
    · next fine => exact .change (by simp only [enforced?, fine]) (.refl w) rfl
  | setLayers layers =>
    simp only [perform]
    split
    · next refused => exact .quiet _ (by simp only [enforced?, refused]) (.refl w)
    · next data known =>
      exact deed_replaceLayers (by simp only [enforced?, known]) rfl (.refl w) rfl
  | reload =>
    simp only [perform]
    split
    · next refused => exact .quiet _ (by simp only [enforced?, refused]) (.refl w)
    · next data read =>
      exact deed_replaceLayers (by simp only [enforced?, read]) rfl
        ⟨rfl, rfl, rfl, rfl, fun sound => sound.of_tables rfl rfl rfl rfl rfl, .of_handles rfl⟩ rfl
  | closeSettings => exact .quiet _ rfl (w.alike_close (by simp))
  | get key default => exact .quiet _ rfl (.refl w)
  | getIn outer key default => exact .quiet _ rfl (.refl w)
  | keys => exact .quiet _ rfl (.refl w)
  | layer name =>
    simp only [perform]
    split <;> exact .quiet _ rfl (.refl w)
  | folders => exact .quiet _ rfl (.refl w)
  | projectDirectory => exact .quiet _ rfl (.refl w)
  | resolve template =>
    simp only [perform]
    split <;> exact .quiet _ rfl (.refl w)
  | write p content => exact .quiet _ rfl (w.alike_setNode p _)
  | delete p => exact .quiet _ rfl (w.alike_setNode p _)

end World

/-- A live record asked to be read. -/
def Live.asked (live : Live) : Live := { live with updating := true, pending := true }

theorem World.requestUpdate_of_closed {w : World} {index : Nat} (closed : (w.live index).closed = true) :
    w.requestUpdate index = (w, []) := by
  simp only [requestUpdate, closed, if_true]

/-- A request marks an open record, and starts its loop unless it is under way. -/
theorem World.requestUpdate_of_open {w : World} {index : Nat} (opened : (w.live index).closed = false) :
    w.requestUpdate index = (w.setLive index (w.live index).asked,
      if (w.live index).updating then [] else [.updating index false]) := by
  have same (running : (w.live index).updating = true) :
      { w.live index with pending := true } = (w.live index).asked := by
    rw [Live.asked, ← running]
  unfold requestUpdate
  dsimp only
  rw [if_neg (by simp [opened])]
  split
  · next running => rw [same running]
  · rfl

/-- A live record about to be read: it need not be read once more. -/
abbrev Live.taken (live : Live) : Live := { live with pending := false }

/-- A live record that has been read: the new record is in force before anyone is told. -/
def Live.read (live : Live) (r : OverrideRecord) : Live :=
  { live with record := r, published := live.published + 1, pending := false }

/-- All that a step can do. -/
inductive Moves : Machine → Machine → Prop
  | done {w v rest} : Moves ⟨w, .answered v, .actions [] :: rest⟩ ⟨w, .answered v, rest⟩
  | act {w v action actions rest outcome} :
      w.perform action = outcome → w.Deed action outcome →
      Moves ⟨w, .answered v, .actions (action :: actions) :: rest⟩
        ⟨outcome.world, outcome.mode, outcome.frames ++ .actions actions :: rest⟩
  | attempted {w v rest} : Moves ⟨w, .answered v, .attempting :: rest⟩ ⟨w, .answered .null, rest⟩
  | told {w v signal event rest} :
      Moves ⟨w, .answered v, .notify signal event [] :: rest⟩ ⟨w, .answered .null, rest⟩
  | pass {w v signal event handle handles rest} :
      (w.isReleased handle = false → ∀ released source index,
        w.handles[handle]? = some ⟨released, .subscription source (.live index)⟩ →
          (w.live index).closed = true ∨ ∀ keys, event = .keys keys → affects keys toolSection = false) →
      (∀ released source name sections calls, w.isReleased handle = false →
        w.handles[handle]? ≠ some ⟨released, .subscription source (.handler name sections calls)⟩) →
      Moves ⟨w, .answered v, .notify signal event (handle :: handles) :: rest⟩
        ⟨w, .answered .null, .notify signal event handles :: rest⟩
  | call {w v signal event handle handles rest released source name sections calls} :
      w.isReleased handle = false →
      w.handles[handle]? = some ⟨released, .subscription source (.handler name sections calls)⟩ →
      Moves ⟨w, .answered v, .notify signal event (handle :: handles) :: rest⟩
        ⟨(w.call handle event).1, .answered .null,
          .actions (calls.headD []) :: .notify signal event handles :: rest⟩
  | follow {w v signal keys handle handles rest released source index} :
      w.isReleased handle = false →
      w.handles[handle]? = some ⟨released, .subscription source (.live index)⟩ →
      (w.live index).closed = false → affects keys toolSection = true →
      Moves ⟨w, .answered v, .notify signal (.keys keys) (handle :: handles) :: rest⟩
        ⟨(w.requestUpdate index).1, .answered .null,
          (w.requestUpdate index).2 ++ .following index :: .notify signal (.keys keys) handles :: rest⟩
  | read {w v index queued rest r} (log : List Entry) :
      (w.live index).pending = true → (w.live index).closed = false → w.reading = .ok r →
      Moves ⟨w, .answered v, .updating index queued :: rest⟩
        ⟨(w.setLive index ((w.live index).read r)).withLog log, .answered .null,
          w.notification (.changes index) (.record r) ++ .updating index true :: rest⟩
  | report {w v index rest f} (log : List Entry) :
      (w.live index).pending = true → (w.live index).closed = false →
      w.reading = .error f → f.isOfSettings = true →
      Moves ⟨w, .answered v, .updating index true :: rest⟩
        ⟨(w.setLive index (w.live index).taken).withLog log, .answered .null,
          w.notification (.failures index) (.failure f) ++ .updating index true :: rest⟩
  | refuse {w v index queued rest f} (log : List Entry) :
      (w.live index).pending = true → (w.live index).closed = false →
      w.reading = .error f → (queued && f.isOfSettings) = false →
      Moves ⟨w, .answered v, .updating index queued :: rest⟩
        ⟨(w.endUpdate index).withLog log, .failing f, rest⟩
  | finish {w v index queued rest} :
      ((w.live index).pending = true → (w.live index).closed = true) →
      Moves ⟨w, .answered v, .updating index queued :: rest⟩ ⟨w.endUpdate index, .answered .null, rest⟩
  | followed {w v index rest} :
      Moves ⟨w, .answered v, .following index :: rest⟩ ⟨w, .answered .null, rest⟩
  | made {w v index rest} :
      Moves ⟨w, .answered v, .making index :: rest⟩ ⟨{ w with current := some index }, .answered .null, rest⟩
  | left {w v index rest} :
      Moves ⟨w, .answered v, .leaving index :: rest⟩ ⟨w.closeLive index, .answered .null, rest⟩
  | released {w v handle shown rest} :
      w.parting handle = [] →
      Moves ⟨w, .answered v, .releasing handle shown :: rest⟩ ⟨w.release handle, .answered shown, rest⟩
  | parted {w v handle shown rest} :
      w.parting handle ≠ [] →
      Moves ⟨w, .answered v, .releasing handle shown :: rest⟩
        ⟨w.release handle, .answered .null,
          .actions (w.parting handle) :: .ending (.answered shown) :: rest⟩
  | ended {w v mode rest} : Moves ⟨w, .answered v, .ending mode :: rest⟩ ⟨w, mode, rest⟩
  | dropActions {w f actions rest} :
      Moves ⟨w, .failing f, .actions actions :: rest⟩ ⟨w, .failing f, rest⟩
  | caught {w f rest} : Moves ⟨w, .failing f, .attempting :: rest⟩ ⟨w, .answered .null, rest⟩
  | dropNotify {w f signal event handles rest} :
      Moves ⟨w, .failing f, .notify signal event handles :: rest⟩ ⟨w, .failing f, rest⟩
  | dropUpdate {w f index queued rest} :
      Moves ⟨w, .failing f, .updating index queued :: rest⟩ ⟨w.endUpdate index, .failing f, rest⟩
  | reportFollowed {w f index rest} (log : List Entry) :
      f.isOfSettings = true →
      Moves ⟨w, .failing f, .following index :: rest⟩
        ⟨w.withLog log, .answered .null, w.notification (.failures index) (.failure f) ++ rest⟩
  | dropFollowed {w f index rest} :
      f.isOfSettings = false →
      Moves ⟨w, .failing f, .following index :: rest⟩ ⟨w, .failing f, rest⟩
  | unmade {w f index rest} :
      Moves ⟨w, .failing f, .making index :: rest⟩ ⟨w.closeLive index, .failing f, rest⟩
  | unleft {w f index rest} :
      Moves ⟨w, .failing f, .leaving index :: rest⟩ ⟨w.closeLive index, .failing f, rest⟩
  | dropReleasing {w f handle shown rest} :
      w.parting handle = [] →
      Moves ⟨w, .failing f, .releasing handle shown :: rest⟩ ⟨w.release handle, .failing f, rest⟩
  | interrupted {w f handle shown rest} :
      w.parting handle ≠ [] →
      Moves ⟨w, .failing f, .releasing handle shown :: rest⟩
        ⟨w.release handle, .answered .null,
          .actions (w.parting handle) :: .ending (.failing f) :: rest⟩
  | dropEnding {w f mode rest} : Moves ⟨w, .failing f, .ending mode :: rest⟩ ⟨w, .failing f, rest⟩

theorem World.logAll_eq (w : World) (messages : List LogMessage) : ∃ log, w.logAll messages = w.withLog log := by
  unfold World.logAll
  split
  · exact ⟨_, rfl⟩
  · exact ⟨w.log, rfl⟩

theorem World.notification_of_open {w : World} {signal : Signal} (opened : (w.registry signal).closed = false)
    (event : Event) : w.notification signal event = [.notify signal event (w.registry signal).handles] := by
  unfold notification
  rw [if_neg (by simp [opened])]

/-- Whether a frame tells those who listen to a live record. -/
def Frame.tellsRecord : Frame → Bool
  | .notify (.changes _) _ _ => true
  | .notify (.failures _) _ _ => true
  | _ => false

section

variable {α : Type} {f : Frame → List α}

theorem World.flatMap_notification (w : World) {signal : Signal} (event : Event)
    (silent : ∀ handles, f (.notify signal event handles) = []) : (w.notification signal event).flatMap f = [] := by
  simp only [notification]
  split
  · rfl
  · simp [silent]

theorem World.flatMap_requestUpdate (w : World) (index : Nat) (silent : f (.updating index false) = []) :
    (w.requestUpdate index).2.flatMap f = [] := by
  cases opened : (w.live index).closed with
  | true => rw [requestUpdate_of_closed opened]; rfl
  | false =>
    rw [requestUpdate_of_open opened]
    cases running : (w.live index).updating <;> simp [silent]

/-- A deed itself tells nothing to those who listen to a live record. -/
theorem World.Deed.flatMap_frames {w : World} {action : Action} {outcome : Outcome} (deed : w.Deed action outcome)
    (silent : ∀ frame, frame.tellsRecord = false → f frame = []) : outcome.frames.flatMap f = [] := by
  cases deed with
  | quiet | close => rfl
  | fire => exact w.flatMap_notification _ fun _ => silent _ rfl
  | attempt body => simp [silent (.actions body) rfl, silent .attempting rfl]
  | @change v layers =>
    rcases v.change_cases layers with ⟨_, same⟩ | ⟨_, same⟩
    · rw [same]
      rfl
    · rw [same]
      simp only
      split
      · rfl
      · exact v.flatMap_notification _ fun _ => silent _ rfl
  | refresh => exact w.flatMap_requestUpdate _ (silent _ rfl)
  | make =>
    rw [makeLive_eq]
    simp [World.flatMap_requestUpdate _ _ (silent (.updating w.lives.length false) rfl), silent (.making _) rfl]
  | makeWith body =>
    rw [makeLive_eq]
    simp [World.flatMap_requestUpdate _ _ (silent (.updating w.lives.length false) rfl), silent (.making _) rfl,
      silent (.actions body) rfl, silent (.leaving _) rfl]
  | letGo mode => simp [silent (.actions _) rfl, silent (.ending mode) rfl]
  | within body shown => simp [silent (.actions body) rfl, silent (.releasing _ shown) rfl]

end

@[simp] theorem World.notification_logAll (w : World) (messages : List LogMessage) (signal : Signal)
    (event : Event) : (w.logAll messages).notification signal event = w.notification signal event := by
  unfold logAll
  split <;> rfl

theorem World.reportFailure_eq (w : World) (index : Nat) (f : Failure) :
    ∃ log, w.reportFailure index f = (w.withLog log, w.notification (.failures index) (.failure f)) := by
  obtain ⟨log, logged⟩ := w.logAll_eq [{ level := .error, text := escapeMarkup f.message }]
  exact ⟨log, by simp only [reportFailure, logged]; rfl⟩

theorem World.publish_eq (w : World) (index : Nat) (r : OverrideRecord) (log : List Entry)
    (bound : index < w.lives.length) :
    ∃ log', ((w.setLive index (w.live index).taken).withLog log).publish index r =
      ((w.setLive index ((w.live index).read r)).withLog log', w.notification (.changes index) (.record r)) := by
  have now : ((w.setLive index (w.live index).taken).withLog log).live index = (w.live index).taken :=
    live_setLive_self bound _
  have twice : ((w.setLive index (w.live index).taken).withLog log).setLive index
      { (w.live index).taken with record := r, published := (w.live index).taken.published + 1 } =
      (w.setLive index ((w.live index).read r)).withLog log := by
    simp [setLive, withLog, Live.read]
  simp only [publish, now, twice, notification_logAll]
  obtain ⟨log', logged⟩ := World.logAll_eq ((w.setLive index ((w.live index).read r)).withLog log) _
  exact ⟨log', congrArg (·, _) logged⟩

theorem World.endUpdate_eq (w : World) (index : Nat) (log : List Entry) (bound : index < w.lives.length) :
    ((w.setLive index (w.live index).taken).withLog log).endUpdate index = (w.endUpdate index).withLog log := by
  have now : ((w.setLive index (w.live index).taken).withLog log).live index = (w.live index).taken :=
    live_setLive_self bound _
  simp only [endUpdate, now]
  simp [setLive, withLog, Live.taken]

theorem World.lt_of_pending {w : World} {index : Nat} (due : (w.live index).pending = true) :
    index < w.lives.length := by
  rcases Nat.lt_or_ge index w.lives.length with bound | outside
  · exact bound
  · rw [live_of_le outside] at due
    cases due

/-- What a turn of the loop comes to. -/
theorem World.turn_moves (w : World) (index : Nat) (queued : Bool) (v : Value) (rest : List Frame) :
    Moves ⟨w, .answered v, .updating index queued :: rest⟩
      ⟨(w.turn index queued).world, (w.turn index queued).mode, (w.turn index queued).frames ++ rest⟩ := by
  unfold turn
  simp only []
  split
  · next going =>
    simp only [Bool.and_eq_true, Bool.not_eq_true'] at going
    obtain ⟨due, opened⟩ := going
    have bound := lt_of_pending due
    cases read : readOverride w.settings w.context with
    | mk result messages =>
      have own : w.reading = result := by simp only [reading, read]
      obtain ⟨log, logged⟩ := (w.setLive index (w.live index).taken).logAll_eq messages
      have same : readOverride (w.setLive index (w.live index).taken).settings
          (w.setLive index (w.live index).taken).context = (result, messages) := read
      simp only [same, logged]
      cases result with
      | ok r =>
        obtain ⟨log', published⟩ := w.publish_eq index r log bound
        have moved : Moves ⟨w, .answered v, .updating index queued :: rest⟩ _ := .read log' due opened own
        simpa only [published, List.append_assoc, List.singleton_append] using moved
      | error f =>
        simp only
        split
        · next told =>
          simp only [Bool.and_eq_true] at told
          obtain ⟨rfl, ofSettings⟩ := told
          obtain ⟨log', reported⟩ := ((w.setLive index (w.live index).taken).withLog log).reportFailure_eq index f
          have moved : Moves ⟨w, .answered v, .updating index true :: rest⟩ _ := .report log' due opened own ofSettings
          simp only [reported, List.append_assoc, List.singleton_append]
          exact moved
        · next other =>
          have moved : Moves ⟨w, .answered v, .updating index queued :: rest⟩ _ :=
            .refuse log due opened own (by simpa using other)
          simpa only [w.endUpdate_eq index log bound, List.nil_append] using moved
  · next idle =>
    refine .finish fun pending => ?_
    simpa [pending] using idle

theorem World.call_moves (w : World) {handle : Nat} (event : Event) (live : w.isReleased handle = false)
    (v : Value) (signal : Signal) (handles : List Nat) (rest : List Frame) :
    Moves ⟨w, .answered v, .notify signal event (handle :: handles) :: rest⟩
      ⟨(w.call handle event).1, .answered .null,
        (w.call handle event).2 ++ [.notify signal event handles] ++ rest⟩ := by
  cases found : w.handles[handle]? with
  | none =>
    simp only [call, found]
    exact .pass (by simp [found]) (by simp [found])
  | some h =>
    obtain ⟨released, holding⟩ := h
    cases holding with
    | alone name parting =>
      simp only [call, found]
      exact .pass (by simp [found]) (by simp [found])
    | subscription source listener =>
      cases listener with
      | handler name sections calls =>
        have moved : Moves ⟨w, .answered v, .notify signal event (handle :: handles) :: rest⟩ _ := .call live found
        simpa only [call, found, List.singleton_append, List.cons_append, List.nil_append] using moved
      | live index =>
        simp only [call, found, follow]
        have idle (other : (w.live index).closed = true ∨
            ∀ keys, event = .keys keys → affects keys toolSection = false) :
            Moves ⟨w, .answered v, .notify signal event (handle :: handles) :: rest⟩
              ⟨w, .answered .null, .notify signal event handles :: rest⟩ := by
          refine .pass (fun _ r s i there => ?_) (by simp [found])
          rw [found] at there
          cases there
          exact other
        cases event with
        | keys keys =>
          simp only
          split
          · next affected =>
            simp only [Bool.and_eq_true, Bool.not_eq_true'] at affected
            have moved : Moves ⟨w, .answered v, .notify signal (.keys keys) (handle :: handles) :: rest⟩ _ :=
              .follow live found affected.1 affected.2
            simpa only [List.append_assoc, List.cons_append, List.nil_append] using moved
          · next unaffected =>
            refine idle ?_
            by_cases closed : (w.live index).closed = true
            · exact .inl closed
            · right
              rintro _ ⟨⟩
              simpa [closed] using unaffected
        | value _ | record _ | failure _ => exact idle (.inr (by simp))

theorem Machine.moves {m next : Machine} (step : m.step? = some next) : Moves m next := by
  obtain ⟨frame, rest, stack, rfl⟩ := step?_eq_some step
  obtain ⟨w, mode, frames⟩ := m
  simp only at stack
  subst stack
  cases mode with
  | answered v =>
    simp only [outcome]
    cases frame with
    | actions actions =>
      cases actions with
      | nil => exact .done
      | cons action actions =>
        have moved : Moves ⟨w, .answered v, .actions (action :: actions) :: rest⟩ _ := .act rfl (w.deed_perform action)
        simpa only [World.resume, List.append_assoc, List.singleton_append] using moved
    | attempting => exact .attempted
    | notify signal event handles =>
      cases handles with
      | nil => exact .told
      | cons handle handles =>
        simp only [World.resume]
        split
        · next released => exact .pass (by simp [released]) (by simp [released])
        · next live =>
          simp only [Bool.not_eq_true] at live
          exact w.call_moves event live v signal handles rest
    | updating index queued => exact w.turn_moves index queued v rest
    | following index => exact .followed
    | making index => exact .made
    | leaving index => exact .left
    | releasing handle shown =>
      rcases w.letGo_cases handle (.answered shown) with ⟨none, same⟩ | ⟨some, same⟩ <;>
        simp only [World.resume, same]
      · exact .released none
      · exact .parted some
    | ending mode => exact .ended
  | failing f =>
    simp only [outcome]
    cases frame with
    | actions actions => exact .dropActions
    | attempting => exact .caught
    | notify signal event handles => exact .dropNotify
    | updating index queued => exact .dropUpdate
    | following index =>
      simp only [World.unwind]
      split
      · next own =>
        obtain ⟨log, reported⟩ := w.reportFailure_eq index f
        have moved : Moves ⟨w, .failing f, .following index :: rest⟩ _ := .reportFollowed log own
        simpa only [reported] using moved
      · next other => exact .dropFollowed (by simpa using other)
    | making index => exact .unmade
    | leaving index => exact .unleft
    | releasing handle shown =>
      rcases w.letGo_cases handle (.failing f) with ⟨none, same⟩ | ⟨some, same⟩ <;> simp only [World.unwind, same]
      · exact .dropReleasing none
      · exact .interrupted some
    | ending mode => exact .dropEnding

end LayeredSettings

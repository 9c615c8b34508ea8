import LayeredSettings.Proofs.Session.Announcement
import LayeredSettings.Proofs.Store.Difference
import LayeredSettings.Proofs.Store.Layers

namespace LayeredSettings

/-- What is left of some layers if the data of one of those to be put in their places cannot be
taken apart, and others have been replaced before it. -/
def Layers.torn? (layers : Layers) (data : List (Layer × List (Scalar × Value))) : Option Layers :=
  match data.findSome? fun layer => entriesFault? layer.2 with
  | none => none
  | some _ =>
    let before := data.takeWhile fun layer => (entriesFault? layer.2).isNone
    if before.isEmpty then none else some (layers.replace before)

namespace World

/-- The layers that an action leaves behind if it fails in the middle of replacing them. -/
def torn? (w : World) : Action → Option Layers
  | .setLayers layers =>
    match namedLayers layers with
    | .error _ => none
    | .ok data => w.layers.torn? data
  | .reload =>
    match w.host.fileLayers (w.readings + filesRead) w.projectDirectory with
    | .error _ => none
    | .ok data => w.layers.torn? data
  | _ => none

/-- No layer holds a key twice, and the settings in force are those of the layers. -/
structure Layered (w : World) : Prop where
  tidy : w.layers.Tidy
  inForce : w.settings = w.layers.effective

theorem layered_empty : Layered {} := ⟨Layers.tidy_empty, rfl⟩

theorem layers_change (w : World) (layers : Layers) : (w.change layers).world.layers = layers := by
  rcases w.change_cases layers with ⟨_, same⟩ | ⟨_, same⟩ <;> rw [same] <;> rfl

/-- Layers are replaced all together, or up to the first one whose data cannot be taken apart. -/
theorem layers_replaceLayers (w : World) (data : List (Layer × List (Scalar × Value))) :
    (w.replaceLayers data).world.layers =
      ((if (data.findSome? fun layer => entriesFault? layer.2).isSome then none
        else some (w.layers.replace data)).or (w.layers.torn? data)).getD w.layers := by
  simp only [replaceLayers, Layers.torn?]
  cases data.findSome? fun layer => entriesFault? layer.2 with
  | none => exact w.layers_change _
  | some fault =>
    simp only [Option.isSome_some, if_true, Option.none_or]
    split
    · next none =>
      rw [List.isEmpty_iff.mp none]
      rfl
    · rfl

theorem layers_perform (w : World) (action : Action) :
    (w.perform action).world.layers = ((w.enforced? action).or (w.torn? action)).getD w.layers := by
  cases action with
  | subscribe | onSettings => exact (w.sameStore_subscribeAs ..).layers
  | subscribeShared names => exact (w.sameStore_subscribeShared names).layers
  | release name =>
    simp only [perform, forHandle]
    split
    · next handle _ =>
      rcases w.letGo_cases handle (.answered .null) with ⟨_, same⟩ | ⟨_, same⟩ <;> rw [same] <;>
        exact (w.sameStore_release _).layers
    · rfl
  | onChange | onFailure | refresh | closeLive =>
    simp only [perform, forCurrent]
    split
    · first
        | exact (w.sameStore_subscribeAs ..).layers
        | exact (w.sameStore_requestUpdate _).layers
        | exact (w.sameStore_closeLive _).layers
    · rfl
  | closeSignal | closeSettings => exact (w.sameStore_close _).layers
  | openLive | withLive => exact w.sameStore_makeLive.layers
  | turnTo | layer | resolve | within =>
    simp only [perform, forHandle]
    split <;> rfl
  | update key value =>
    simp only [perform, enforced?, torn?]
    cases entryFault? value with
    | some fault => rfl
    | none => exact w.layers_change _
  | setLayers layers =>
    simp only [perform, enforced?, torn?]
    cases namedLayers layers with
    | error f => rfl
    | ok data =>
      simp only [layers_replaceLayers]
      cases data.findSome? fun layer => entriesFault? layer.2 <;> rfl
  | reload =>
    simp only [perform, enforced?, torn?]
    cases w.host.fileLayers (w.readings + filesRead) w.projectDirectory with
    | error f => rfl
    | ok data =>
      simp only [layers_replaceLayers]
      cases data.findSome? fun layer => entriesFault? layer.2 <;> rfl
  | holdFor | fire | fail | attempt | get | getIn | keys | folders | projectDirectory | write | delete => rfl

/-- What is loaded is put in force, and the host stays. -/
theorem load_cases {w v : World} {roots : List Path} (loaded : w.load roots = .ok v) :
    ∃ reading directory data, w.host.fileLayers reading directory = .ok data ∧
      v.layers = w.layers.replace data ∧ v.settings = v.layers.effective ∧ v.host = w.host := by
  simp only [World.load, Bind.bind, Except.bind] at loaded
  split at loaded
  · cases loaded
  · split at loaded
    · cases loaded
    · next data read =>
      split at loaded
      · cases loaded
      · cases loaded
        exact ⟨_, _, data, read, rfl, rfl, rfl⟩

theorem Layered.load {w v : World} {roots : List Path} (tidy : w.layers.Tidy) (loaded : w.load roots = .ok v) :
    v.Layered := by
  obtain ⟨_, _, data, _, layers, inForce, _⟩ := load_cases loaded
  exact ⟨layers ▸ tidy.replace data, inForce⟩

/-- The data that an action replaces layers with, handed over or read from files. -/
inductive Brings (w : World) : Action → List (Layer × List (Scalar × Value)) → Prop
  | named {layers : List (String × List (Scalar × Value))} {data : List (Layer × List (Scalar × Value))} :
      namedLayers layers = .ok data → Brings w (.setLayers layers) data
  | read {data : List (Layer × List (Scalar × Value))} :
      w.host.fileLayers (w.readings + filesRead) w.projectDirectory = .ok data → Brings w .reload data

variable {P : Layers → Prop} {w : World} {action : Action} {layers : Layers}

/-- Layers that are put in force have one setting set, or some of them are replaced. -/
theorem enforced_cases (puts : w.enforced? action = some layers) :
    (∃ key value, action = .update key value ∧ layers = w.layers.update key value) ∨
      ∃ data, w.Brings action data ∧ layers = w.layers.replace data := by
  unfold enforced? at puts
  split at puts
  · split at puts
    · cases puts
    · cases puts
      exact .inl ⟨_, _, rfl, rfl⟩
  · split at puts
    · cases puts
    · next data named =>
      split at puts
      · cases puts
      · cases puts
        exact .inr ⟨data, .named named, rfl⟩
  · split at puts
    · cases puts
    · next data read =>
      split at puts
      · cases puts
      · cases puts
        exact .inr ⟨data, .read read, rfl⟩
  · cases puts

/-- Layers that are torn are replaced by the first of those that were to be. -/
theorem torn_cases (torn : w.torn? action = some layers) :
    ∃ data before, w.Brings action data ∧ before <+: data ∧ layers = w.layers.replace before := by
  have replaced {data : List (Layer × List (Scalar × Value))} (torn : w.layers.torn? data = some layers) :
      ∃ before, before <+: data ∧ layers = w.layers.replace before := by
    simp only [Layers.torn?] at torn
    split at torn
    · cases torn
    · split at torn
      · cases torn
      · cases torn
        exact ⟨_, List.takeWhile_prefix _, rfl⟩
  unfold torn? at torn
  split at torn
  · split at torn
    · cases torn
    · next data named =>
      obtain ⟨before, first, same⟩ := replaced torn
      exact ⟨data, before, .named named, first, same⟩
  · split at torn
    · cases torn
    · next data read =>
      obtain ⟨before, first, same⟩ := replaced torn
      exact ⟨data, before, .read read, first, same⟩
  · cases torn

/-- Layers put in force keep what layers keep. -/
theorem lasts_enforced (lasting : Layers.Lasting P) (holds : P w.layers) (puts : w.enforced? action = some layers) :
    P layers := by
  rcases enforced_cases puts with ⟨key, value, _, rfl⟩ | ⟨data, _, rfl⟩
  · exact lasting.update key value holds
  · exact lasting.replace data holds

theorem lasts_torn (lasting : Layers.Lasting P) (holds : P w.layers) (torn : w.torn? action = some layers) :
    P layers := by
  obtain ⟨_, before, _, _, rfl⟩ := torn_cases torn
  exact lasting.replace before holds

end World

/-- The keys that a frame announces. -/
def Frame.announced : Frame → List (List String)
  | .notify .settings (.keys keys) _ => [keys]
  | _ => []

theorem World.announced_notification (w : World) {signal : Signal} (event : Event) (other : signal ≠ .settings) :
    (w.notification signal event).flatMap Frame.announced = [] := by
  refine w.flatMap_notification event fun _ => ?_
  cases signal with
  | settings => exact absurd rfl other
  | plain | changes | failures => rfl

theorem World.Deed.announces_nothing {w : World} {action : Action} {outcome : Outcome} (deed : w.Deed action outcome)
    (quiet : w.enforced? action = none) : outcome.frames.flatMap Frame.announced = [] := by
  have requested (v : World) (index : Nat) := v.flatMap_requestUpdate index (f := Frame.announced) rfl
  cases deed with
  | quiet | close | attempt | letGo | within => rfl
  | fire => exact w.announced_notification _ (by simp)
  | change puts =>
    rw [quiet] at puts
    cases puts
  | refresh => exact requested w _
  | make | makeWith => simp [World.makeLive_eq, requested, Frame.announced]

namespace Machine

/-- The layers that the step to come puts in force. -/
def puts? (m : Machine) : Option Layers :=
  match m.mode, m.stack with
  | .answered _, .actions (action :: _) :: _ => m.world.enforced? action
  | _, _ => none

/-- The layers that the step to come leaves behind without putting them in force. -/
def torn? (m : Machine) : Option Layers :=
  match m.mode, m.stack with
  | .answered _, .actions (action :: _) :: _ => m.world.torn? action
  | _, _ => none

/-- Whether no layer has been replaced without coming in force since layers last were put in
force. -/
def settled : List Machine → Bool
  | [] => true
  | m :: past => m.puts?.isSome || (m.torn?.isNone && settled past)

/-- The changes of settings that are being announced, the innermost first. -/
def announced (m : Machine) : List (List String) := m.stack.flatMap Frame.announced

variable {m next : Machine}

theorem alters_eq (m : Machine) :
    m.alters? = m.puts?.map fun layers => (m.world.settings, layers.effective) := by
  unfold alters? puts?
  split <;> simp_all

/-- A step leaves the layers unless it puts new ones in force or replaces some without that. -/
theorem layers_step (step : m.step? = some next) : next.world.layers = (m.puts?.or m.torn?).getD m.world.layers := by
  cases moves step with
  | act performed =>
    rw [← performed]
    exact World.layers_perform _ _
  | call _ found => simp only [World.call, found, puts?, torn?]; rfl
  | follow => exact (World.sameStore_requestUpdate _ _).layers
  | left | unmade | unleft => exact (World.sameStore_closeLive _ _).layers
  | released | parted | dropReleasing | interrupted => exact (World.sameStore_release _ _).layers
  | _ => rfl

/-- A step keeps what layers keep. -/
theorem lasts_step {P : Layers → Prop} (lasting : Layers.Lasting P) (step : m.step? = some next)
    (holds : P m.world.layers) : P next.world.layers := by
  rw [layers_step step]
  unfold puts? torn?
  split
  · next action _ _ _ _ =>
    cases puts : m.world.enforced? action with
    | some layers => exact World.lasts_enforced lasting holds puts
    | none =>
      cases torn : m.world.torn? action with
      | some layers => exact World.lasts_torn lasting holds torn
      | none => exact holds
  · exact holds

/-- The settings in force are those of the layers after layers have been put in force, and as long
as nothing tears them. -/
theorem layered_step (step : m.step? = some next) (tidy : m.world.layers.Tidy)
    (kept : m.puts? = none → m.torn? = none ∧ m.world.settings = m.world.layers.effective) : next.world.Layered := by
  refine ⟨lasts_step Layers.lasting_tidy step tidy, ?_⟩
  rw [layers_step step]
  rcases context_step step with ⟨quiet, context⟩ | ⟨after, alters, settings, _⟩
  · rw [alters_eq, Option.map_eq_none_iff] at quiet
    obtain ⟨whole, inForce⟩ := kept quiet
    rw [World.settings_of_context context, quiet, whole]
    exact inForce
  · rw [alters_eq, Option.map_eq_some_iff] at alters
    obtain ⟨layers, puts, same⟩ := alters
    cases same
    rw [settings, puts]
    rfl

/-- Nothing but a change that is put in force is announced. -/
theorem announced_step (step : m.step? = some next) (quiet : m.alters? = none) : next.announced <:+ m.announced := by
  cases moves step with
  | act _ deed =>
    have none := deed.announces_nothing (by simpa [alters?] using quiet)
    simp [announced, none, Frame.announced]
  | @pass w v signal event | @call w v signal event =>
    cases signal <;> cases event <;> simp [announced, Frame.announced]
  | @follow w v signal keys =>
    have none (i : Nat) := w.flatMap_requestUpdate i (f := Frame.announced) rfl
    cases signal <;> simp [announced, none, Frame.announced]
  | read | report | reportFollowed => simp [announced, World.announced_notification, Frame.announced]
  | _ => simp [announced, Frame.announced]

/-- A change that is put in force while the settings are open is announced, once and with the keys
that differ, if there are any and it can be told. -/
theorem announced_of_alters (step : m.step? = some next) {before after : Flat}
    (alters : m.alters? = some (before, after)) (listening : (m.world.registry .settings).closed = false) :
    next.announced = (if neverDiffer before after || (changedKeys before after).isEmpty then []
      else [changedKeys before after]) ++ m.announced := by
  obtain ⟨_, _, _, _, v, action, actions, rest, _, stack, outcome⟩ := alter_step step alters
  rcases outcome with ⟨endless, _, popped⟩ | ⟨ends, _, told⟩
  · simp [announced, stack, popped, endless, Frame.announced]
  · rw [World.notification_of_open listening] at told
    cases none : (changedKeys before after).isEmpty <;>
      simp [announced, stack, told, ends, none, Frame.announced]

end Machine

namespace Course

variable {start : World} {past : List Machine} {m : Machine}

theorem tidy (course : Course start past m) (tidy : start.layers.Tidy) : m.world.layers.Tidy := by
  induction course with
  | start action => exact tidy
  | step _ step ih => exact Machine.lasts_step Layers.lasting_tidy step ih
  | act action _ _ ih => exact ih

theorem layered (course : Course start past m) (layered : start.Layered) (settled : Machine.settled past = true) :
    m.world.Layered := by
  induction course with
  | start action => exact layered
  | @step past m next course step ih =>
    refine Machine.layered_step step (course.tidy layered.tidy) fun none => ?_
    simp only [Machine.settled, none, Option.isSome_none, Bool.false_or, Bool.and_eq_true,
      Option.isNone_iff_eq_none] at settled
    exact ⟨settled.1, (ih settled.2).inForce⟩
  | @act past m action course ended ih =>
    have none : m.puts? = none := by simp [Machine.puts?, ended]
    simp only [Machine.settled, none, Option.isSome_none, Bool.false_or, Bool.and_eq_true] at settled
    exact ih settled.2

end Course

/-- Unless layers have been torn, the settings in force are those that stand in some layer, each
with its value in the highest one. A change that is put in force while the settings are
open is announced with exactly the keys that differ, each once, if there are any and it
can be told; and no other step announces anything. -/
theorem Course.settings_layered {start : World} {past : List Machine} {m : Machine} (course : Course start past m)
    (layered : start.Layered) (settled : Machine.settled past = true) :
    (∀ key, Entries.get? m.world.settings key = m.world.layers.highest? key) ∧
    (∀ key, key ∈ Entries.keys m.world.settings ↔ ∃ layer, key ∈ Entries.keys (m.world.layers.get layer)) ∧
    ∀ next, m.step? = some next →
      (m.alters? = none → next.announced <:+ m.announced) ∧
      ∀ before after, m.alters? = some (before, after) →
        before = m.world.settings ∧ after = next.world.settings ∧ after = next.world.layers.effective ∧
        ((m.world.registry .settings).closed = false → neverDiffer before after = false →
          ∃ keys, keys.Nodup ∧ (∀ key, key ∈ keys ↔ sameAt before after key = false) ∧
            next.announced = (if keys.isEmpty then [] else [keys]) ++ m.announced) := by
  obtain ⟨tidy, inForce⟩ := course.layered layered settled
  refine ⟨fun key => ?_, fun key => ?_, fun next step => ⟨Machine.announced_step step, ?_⟩⟩
  · rw [inForce, tidy.get?_effective]
  · rw [inForce, tidy.mem_keys_effective]
  · intro before after alters
    obtain ⟨own, now, _⟩ := Machine.alter_step step alters
    have layers : after = next.world.layers.effective := by
      rw [Machine.alters_eq, Option.map_eq_some_iff] at alters
      obtain ⟨layers, puts, same⟩ := alters
      cases same
      rw [Machine.layers_step step, puts]
      rfl
    refine ⟨own, now.symm, layers, fun listening ends =>
      ⟨changedKeys before after, ?_, fun _ => mem_changedKeys_iff, ?_⟩⟩
    · rw [own, inForce, layers]
      exact nodup_changedKeys (Layers.nodup_effective _) (Layers.nodup_effective _)
    · rw [Machine.announced_of_alters step alters listening, ends, Bool.false_or]

/-- Settings in two layers, and a handler that sets another key when it is told of a change. -/
def layeredSession : List Machine × Machine :=
  (({} : World).doing (.setLayers [("machine", [(.text "a", .scalar (.int 1))]),
    ("user", [(.text "a", .scalar (.int 2))])])).play 40 [] [.onSettings "nested" [] [[.update "b" (.text "x")]]]

/-- The first steps of a change that the handler is told of. -/
def layeredChange (fuel : Nat) : List Machine × Machine :=
  layeredSession.2.begin fuel layeredSession.1 (.update "a" (.text "y"))

/-- What the handler changes is announced within the announcement that it is told of. -/
theorem settings_layered_nested : ∃ past m next before after keys, Course {} past m ∧ m.step? = some next ∧
    m.alters? = some (before, after) ∧ Entries.get? m.world.settings "a" = m.world.layers.highest? "a" ∧
    keys.Nodup ∧ (∀ key, key ∈ keys ↔ sameAt before after key = false) ∧
    next.announced = (if keys.isEmpty then [] else [keys]) ++ m.announced ∧ m.announced = [["a"]] := by
  have ended : layeredSession.2.stack.isEmpty = true := by decide +kernel
  have course : Course {} (layeredChange 2).1 (layeredChange 2).2 := ((Course.start _).play 40 _).begin ended 2 _
  have now : Machine.settled (layeredChange 2).1 = true ∧ (layeredChange 2).2.step?.isSome = true ∧
      ((layeredChange 2).2.alters?.any fun change => !neverDiffer change.1 change.2) = true ∧
      ((layeredChange 2).2.world.registry .settings).closed = false ∧ (layeredChange 2).2.announced = [["a"]] := by
    decide +kernel
  generalize layeredChange 2 = change at course now
  obtain ⟨settled, step, alters, listening, outer⟩ := now
  obtain ⟨next, step⟩ := Option.isSome_iff_exists.mp step
  obtain ⟨⟨before, after⟩, alters, ends⟩ := (Option.any_eq_true _ _).mp alters
  obtain ⟨values, _, steps⟩ := course.settings_layered World.layered_empty settled
  obtain ⟨_, _, _, announced⟩ := (steps next step).2 before after alters
  obtain ⟨keys, apart, exactly, told⟩ := announced listening (by simpa using ends)
  exact ⟨_, _, next, before, after, keys, course, step, alters, values "a", apart, exactly, told, outer⟩

/-- Where the data of the second layer cannot be taken apart, the first one has been replaced all the
same, and the settings in force are not those of the layers. -/
theorem settings_layered_torn : ∃ past m, Course {} past m ∧ m.stack = [] ∧
    (m.world.registry .settings).closed = false ∧ (Entries.get? m.world.settings "a").isNone = true ∧
    (m.world.layers.highest? "a").isSome = true := by
  let data : List (String × List (Scalar × Value)) := [("machine", [(.text "a", .scalar (.int 1))]),
    ("user", [(.text "x", .map [(.int (10 ^ digitLimit), .scalar (.int 1))])])]
  refine ⟨_, _, (@Course.start {} (.setLayers data)).play 40 [], List.isEmpty_iff.mp ?_, ?_, ?_, ?_⟩ <;> decide +kernel

end LayeredSettings

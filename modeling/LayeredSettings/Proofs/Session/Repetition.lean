import LayeredSettings.Proofs.Session.Reload
import LayeredSettings.Proofs.Store.Repetition
import LayeredSettings.Proofs.Yaml.KeysApart

namespace LayeredSettings

namespace Action

/-- Whether an action sets settings that it brings along. -/
def writes : Action → Bool
  | .update .. | .setLayers _ => true
  | _ => false

/-- Whether no mapping that an action brings along holds two keys that are the same. -/
def keysApart : Action → Bool
  | .update _ value => value.keysApart
  | .setLayers layers => layers.all fun layer => Value.entriesKeysApart layer.2
  | _ => true

end Action

theorem mem_of_namedLayers {layers : List (String × List (Scalar × Value))}
    {data : List (Layer × List (Scalar × Value))} (named : namedLayers layers = .ok data)
    {layer : Layer × List (Scalar × Value)} (member : layer ∈ data) :
    ∃ own ∈ layers, own.2 = layer.2 := by
  induction layers generalizing data with
  | nil =>
    cases named
    cases member
  | cons first rest ih =>
    obtain ⟨name, entries⟩ := first
    simp only [namedLayers] at named
    split at named
    · cases named
    · cases named
    · next own others found more =>
      cases named
      rcases List.mem_cons.mp member with rfl | later
      · exact ⟨_, List.mem_cons_self .., rfl⟩
      · obtain ⟨own, there, same⟩ := ih more later
        exact ⟨own, List.mem_cons_of_mem _ there, same⟩

/-- No mapping in what the settings files hold has two keys that are the same. -/
theorem Host.keysApart_of_fileLayers {host : Host} (apart : host.loader.KeysApart) {reading : Nat}
    {directory : Option Path} {data : List (Layer × List (Scalar × Value))}
    (read : host.fileLayers reading directory = .ok data) {layer : Layer × List (Scalar × Value)} (member : layer ∈ data) :
    Value.entriesKeysApart layer.2 = true := by
  have inside {entries : List (Scalar × Value)} (apart : (Value.map entries).keysApart = true) :
      Value.entriesKeysApart entries = true := by
    simp only [Value.keysApart, Bool.and_eq_true] at apart
    exact apart.2
  rcases host.fileLayers_cases reading directory with ⟨f, refused, _⟩ | ⟨machine, user, own, first, second, third, all⟩
  · cases refused.symm.trans read
  · cases all.symm.trans read
    have project : Value.entriesKeysApart own = true := by
      unfold projectSettings at third
      split at third
      · cases third
        rfl
      · split at third
        · cases third
        · cases third
          rfl
        · exact inside (keysApart_of_settingsOfFile apart third)
    simp only [List.mem_cons, List.not_mem_nil, or_false] at member
    rcases member with rfl | rfl | rfl
    · exact inside (keysApart_of_settingsOfFile apart first)
    · exact inside (keysApart_of_settingsOfFile apart second)
    · exact project

namespace World

variable {w w' : World} {action : Action} {layers : Layers}

/-- No mapping inside a setting holds two keys that are the same, nor does any that is loaded from a file. -/
structure KeysApart (w : World) : Prop where
  layers : w.layers.KeysApart
  settings : w.settings.KeysApart
  loader : w.host.loader.KeysApart

theorem keysApart_empty : KeysApart {} :=
  ⟨Layers.keysApart_empty, fun _ member => (nomatch member), keysApart_loadYaml⟩

theorem keysApart_load {v : World} {roots : List Path} (apart : w.layers.KeysApart)
    (loads : w.host.loader.KeysApart) (loaded : w.load roots = .ok v) : v.KeysApart := by
  obtain ⟨_, _, data, read, layers, inForce, host⟩ := load_cases loaded
  have whole : v.layers.KeysApart :=
    layers ▸ apart.replace fun _ member => Host.keysApart_of_fileLayers loads read member
  exact ⟨whole, inForce ▸ whole.effective, host ▸ loads⟩

theorem Brings.keysApart {data : List (Layer × List (Scalar × Value))} (loads : w.host.loader.KeysApart)
    (brings : w.Brings action data) (own : action.keysApart = true) :
    ∀ layer ∈ data, Value.entriesKeysApart layer.2 = true := by
  intro layer member
  cases brings with
  | named named =>
    obtain ⟨given, there, same⟩ := mem_of_namedLayers named member
    exact same ▸ List.all_eq_true.mp own given there
  | read read => exact Host.keysApart_of_fileLayers loads read member

theorem keysApart_enforced (own : action.keysApart = true) (apart : w.KeysApart)
    (puts : w.enforced? action = some layers) : layers.KeysApart := by
  rcases enforced_cases puts with ⟨key, value, rfl, rfl⟩ | ⟨data, brings, rfl⟩
  · exact apart.layers.update key own
  · exact apart.layers.replace (brings.keysApart apart.loader own)

theorem keysApart_torn (own : action.keysApart = true) (apart : w.KeysApart)
    (torn : w.torn? action = some layers) : layers.KeysApart := by
  obtain ⟨data, before, brings, first, rfl⟩ := torn_cases torn
  exact apart.layers.replace fun layer member => brings.keysApart apart.loader own layer (first.subset member)

/-- What an action that sets settings does: it puts layers in force, or it comes to nothing that anything is told of. -/
theorem perform_of_writes (w : World) (writes : action.writes = true) :
    (∃ layers, w.enforced? action = some layers ∧ w.perform action = w.change layers) ∨
      w.enforced? action = none ∧ (w.perform action).frames = [] ∧ (w.perform action).world.settings = w.settings := by
  cases action with
  | update key value =>
    simp only [perform, enforced?]
    cases entryFault? value with
    | some fault => exact .inr ⟨rfl, rfl, rfl⟩
    | none => exact .inl ⟨_, rfl, rfl⟩
  | setLayers layers =>
    simp only [perform, enforced?]
    cases namedLayers layers with
    | error f => exact .inr ⟨rfl, rfl, rfl⟩
    | ok data =>
      simp only [replaceLayers]
      cases data.findSome? fun layer => entriesFault? layer.2 with
      | some fault => exact .inr ⟨rfl, rfl, rfl⟩
      | none => exact .inl ⟨_, rfl, rfl⟩
  | _ => cases writes

theorem isSome_enforced (w w' : World) (writes : action.writes = true) :
    (w.enforced? action).isSome = (w'.enforced? action).isSome := by
  cases action with
  | update key value =>
    simp only [enforced?]
    cases entryFault? value <;> rfl
  | setLayers layers =>
    simp only [enforced?]
    cases namedLayers layers with
    | error f => rfl
    | ok data =>
      simp only
      cases data.findSome? fun layer => entriesFault? layer.2 <;> rfl
  | _ => cases writes

/-- Layers are not changed by an action that sets settings which they have been set by already. -/
theorem layers_perform_again (writes : action.writes = true) (kept : w'.layers = (w.perform action).world.layers) :
    w'.layers.Alike (w'.perform action).world.layers ∧
      ((∀ value, action ≠ .update "" value) → (w'.perform action).world.layers = w'.layers) := by
  cases action with
  | update key value =>
    simp only [perform] at kept ⊢
    cases fault : entryFault? value with
    | some fault => exact ⟨.refl _, fun _ => rfl⟩
    | none =>
      simp only [fault, layers_change] at kept ⊢
      rw [kept]
      exact ⟨w.layers.alike_update_update key value, fun named =>
        w.layers.update_update (fun empty => named value (by rw [empty])) value⟩
  | setLayers layers =>
    suffices same : (w'.perform (.setLayers layers)).world.layers = w'.layers from
      ⟨fun _ _ => by rw [same], fun _ => same⟩
    simp only [perform] at kept ⊢
    cases named : namedLayers layers with
    | error f => rfl
    | ok data =>
      simp only [named, replaceLayers] at kept ⊢
      cases found : data.findSome? fun layer => entriesFault? layer.2 with
      | some fault =>
        simp only [found] at kept
        simp only [kept, Layers.replace_replace]
      | none =>
        simp only [found, layers_change] at kept ⊢
        rw [kept, Layers.replace_replace]
  | _ => cases writes

/-- A change to layers in which each key has the same value announces what is not a number, if the settings are open. -/
theorem change_of_alike (tidy : w.layers.Tidy) (tidy' : layers.Tidy) (apart : w.KeysApart)
    (inForce : w.settings = w.layers.effective) (alike : w.layers.Alike layers) :
    (∀ key, Entries.get? layers.effective key = Entries.get? w.settings key) ∧
      (w.change layers).world = w.enforce layers ∧ (w.change layers).mode = .answered .null ∧
      ∃ keys, (w.change layers).frames.flatMap Frame.announced = (if keys.isEmpty then [] else [keys]) ∧ keys.Nodup ∧
        ∀ key, key ∈ keys ↔ (w.registry .settings).closed = false ∧
          ∃ v, Entries.get? w.settings key = some v ∧ v.isNan = true := by
  have settings (key : String) : Entries.get? layers.effective key = Entries.get? w.settings key := by
    rw [inForce, alike.get?_effective tidy tidy']
  have apart' : (Entries.keys w.settings).Nodup := inForce ▸ Layers.nodup_effective _
  refine ⟨settings, ?_⟩
  rcases w.change_cases layers with ⟨endless, _⟩ | ⟨_, changed⟩
  · rw [Flat.neverDiffer_of_alike apart' apart.settings settings] at endless
    cases endless
  · rw [changed]
    refine ⟨rfl, rfl, if (w.registry .settings).closed then [] else changedKeys w.settings layers.effective,
      ?_, ?_, fun key => ?_⟩
    · have told := w.flatMap_notification_settings (changedKeys w.settings layers.effective)
      cases listening : (w.registry .settings).closed <;>
        cases none : (changedKeys w.settings layers.effective).isEmpty <;> simp [told, none, listening]
    · split
      · exact List.nodup_nil
      · exact nodup_changedKeys apart' (Layers.nodup_effective layers)
    · split
      · next closed => simp [closed]
      · next listening =>
        rw [Flat.mem_changedKeys_of_alike apart.settings settings]
        simp [listening]

end World

namespace Machine

variable {m next : Machine}

/-- The action that is begun next. -/
def coming? (m : Machine) : Option Action :=
  match m.mode, m.stack with
  | .answered _, .actions (action :: _) :: _ => some action
  | _, _ => none

theorem puts?_eq (m : Machine) : m.puts? = m.coming?.bind m.world.enforced? := by
  unfold puts? coming?
  split <;> simp_all

theorem torn?_eq (m : Machine) : m.torn? = m.coming?.bind m.world.torn? := by
  unfold torn? coming?
  split <;> simp_all

theorem keysApart_step (step : m.step? = some next) (own : m.coming?.all Action.keysApart = true)
    (apart : m.world.KeysApart) : next.world.KeysApart := by
  have mine {action : Action} (coming : m.coming? = some action) : action.keysApart = true := by
    simpa [coming] using own
  have puts {layers : Layers} (puts : m.puts? = some layers) : layers.KeysApart := by
    rw [puts?_eq, Option.bind_eq_some_iff] at puts
    obtain ⟨action, coming, enforced⟩ := puts
    exact World.keysApart_enforced (mine coming) apart enforced
  have torn {layers : Layers} (torn : m.torn? = some layers) : layers.KeysApart := by
    rw [torn?_eq, Option.bind_eq_some_iff] at torn
    obtain ⟨action, coming, torn⟩ := torn
    exact World.keysApart_torn (mine coming) apart torn
  refine ⟨?_, ?_, loader_step step ▸ apart.loader⟩
  · rw [layers_step step]
    cases found : m.puts? with
    | some layers => exact puts found
    | none =>
      cases found' : m.torn? with
      | some layers => exact torn found'
      | none => exact apart.layers
  · rcases context_step step with ⟨_, context⟩ | ⟨after, alters, settings, _⟩
    · rw [World.settings_of_context context]
      exact apart.settings
    · rw [alters_eq, Option.map_eq_some_iff] at alters
      obtain ⟨layers, found, same⟩ := alters
      cases same
      rw [settings]
      exact (puts found).effective

variable {v : Value} {action : Action} {actions : List Action} {rest : List Frame}

theorem coming?_eq (mode : m.mode = .answered v) (stack : m.stack = .actions (action :: actions) :: rest) :
    m.coming? = some action := by
  simp only [coming?, mode, stack]

/-- An action that sets settings which it has set before leaves them, and all that it announces are settings that are
not a number. -/
theorem repeated_step (mode : m.mode = .answered v) (stack : m.stack = .actions (action :: actions) :: rest)
    (writes : action.writes = true) {w : World} (done : m.world.layers = (w.perform action).world.layers)
    (tidy : m.world.layers.Tidy) (apart : m.world.KeysApart)
    (inForce : m.puts?.isSome = true → m.world.settings = m.world.layers.effective) :
    ∃ again keys, m.step? = some again ∧ m.world.layers.Alike again.world.layers ∧
      (∀ key, Entries.get? again.world.settings key = Entries.get? m.world.settings key) ∧
      ((∀ value, action ≠ .update "" value) →
        again.world.layers = m.world.layers ∧ again.world.settings = m.world.settings) ∧
      (m.puts?.isSome = true → again.mode = .answered .null) ∧
      again.announced = (if keys.isEmpty then [] else [keys]) ++ m.announced ∧ keys.Nodup ∧
      ∀ key, key ∈ keys ↔ m.puts?.isSome = true ∧ (m.world.registry .settings).closed = false ∧
        ∃ v, Entries.get? m.world.settings key = some v ∧ v.isNan = true := by
  have coming : m.puts? = m.world.enforced? action := by rw [puts?_eq, coming?_eq mode stack, Option.bind_some]
  have before : m.announced = rest.flatMap Frame.announced := by simp [announced, stack, Frame.announced]
  have after (frames : List Frame) (told : List (List String)) (own : frames.flatMap Frame.announced = told) :
      (frames ++ .actions actions :: rest).flatMap Frame.announced = told ++ m.announced := by
    simp [before, own, Frame.announced]
  obtain ⟨alike, same⟩ := World.layers_perform_again writes done
  rcases m.world.perform_of_writes writes with ⟨layers, puts, performed⟩ | ⟨quiet, frames, settings⟩
  · have own : m.world.settings = m.world.layers.effective := inForce (by rw [coming, puts]; rfl)
    rw [performed, World.layers_change] at alike same
    obtain ⟨settings, world, mode', keys, told, once, exactly⟩ :=
      World.change_of_alike tidy (World.lasts_enforced Layers.lasting_tidy tidy puts) apart own alike
    have inForce' : (m.world.change layers).world.settings = layers.effective := by rw [world]; rfl
    rw [← performed] at inForce' told mode'
    refine ⟨_, keys, step_of_perform mode stack, ?_, fun key => ?_, fun named => ⟨?_, ?_⟩, fun _ => mode',
      after _ _ told, once, fun key => ?_⟩
    · rw [performed, World.layers_change]
      exact alike
    · rw [inForce', settings]
    · rw [performed, World.layers_change, same named]
    · rw [inForce', same named, own]
    · simp [exactly, coming, puts]
  · refine ⟨_, [], step_of_perform mode stack, alike, fun key => by rw [settings],
      fun named => ⟨same named, settings⟩, ?_, after _ _ (by rw [frames]; rfl), List.nodup_nil, fun key => ?_⟩
    · simp [coming, quiet]
    · simp [coming, quiet]

end Machine

/-- Settings hold no key twice inside as long as nothing that is handed over does. -/
theorem Course.keysApart {start : World} {past : List Machine} {m : Machine} (course : Course start past m)
    (apart : start.KeysApart) (given : ∀ passed ∈ past, passed.coming?.all Action.keysApart = true) :
    m.world.KeysApart := by
  induction course with
  | start action => exact apart
  | step _ step ih =>
    exact Machine.keysApart_step step (given _ (List.mem_cons_self ..))
      (ih fun passed member => given passed (List.mem_cons_of_mem _ member))
  | act action _ _ ih => exact ih fun passed member => given passed (List.mem_cons_of_mem _ member)

/-- A setting that is set again, and layers that are replaced again, as long as nothing has put layers in force or torn
them in between. The action begins and comes to what it came to before: each key has the same value in each layer and
in the settings in force, which keep their order too unless the key that is set is the empty one. All that can be
announced are the settings that are not a number, for these differ from themselves; without any, nothing is. Neither
the program nor a settings file can hold a mapping with two keys that are the same, whatever else the values are; of
the loader of settings files this is taken for granted. -/
theorem Course.repeated_action {start : World} {past : List Machine} {m : Machine} (course : Course start past m)
    (layered : start.Layered) (apart : start.KeysApart) {action : Action} (writes : action.writes = true)
    {v : Value} (mode : m.mode = .answered v) {actions : List Action} {rest : List Frame}
    (stack : m.stack = .actions (action :: actions) :: rest) {next : Machine} (step : m.step? = some next)
    {during : List Machine} {last : Machine} (path : next.Onward during last)
    (quiet : ∀ passed ∈ during, passed.puts? = none ∧ passed.torn? = none)
    (given : ∀ passed ∈ during ++ m :: past, passed.coming?.all Action.keysApart = true)
    {v' : Value} (mode' : last.mode = .answered v') {actions' : List Action} {rest' : List Frame}
    (stack' : last.stack = .actions (action :: actions') :: rest') :
    ∃ again keys, last.step? = some again ∧ last.world.layers.Alike again.world.layers ∧
      (∀ key, Entries.get? again.world.settings key = Entries.get? last.world.settings key) ∧
      ((∀ value, action ≠ .update "" value) →
        again.world.layers = last.world.layers ∧ again.world.settings = last.world.settings) ∧
      (last.puts?.isSome = true → again.mode = .answered .null) ∧
      again.announced = (if keys.isEmpty then [] else [keys]) ++ last.announced ∧ keys.Nodup ∧
      ∀ key, key ∈ keys ↔ last.puts?.isSome = true ∧ (last.world.registry .settings).closed = false ∧
        ∃ v, Entries.get? last.world.settings key = some v ∧ v.isNan = true := by
  have first : Course start (m :: past) next := course.step step
  have later : Course start (during ++ m :: past) last := first.onward path
  obtain ⟨layers, settings⟩ := path.layers_kept quiet
  have done : last.world.layers = (m.world.perform action).world.layers := by
    rw [Machine.step_of_perform mode stack] at step
    cases step
    exact layers
  refine last.repeated_step mode' stack' writes done (later.tidy layered.tidy) (later.keysApart apart given) ?_
  -- What the first action has put in force is in force still.
  intro puts
  have puts : m.puts? ≠ none := by
    rw [Machine.puts?_eq, Machine.coming?_eq mode' stack', Option.bind_some,
      World.isSome_enforced last.world m.world writes] at puts
    rw [Machine.puts?_eq, Machine.coming?_eq mode stack, Option.bind_some]
    exact Option.isSome_iff_ne_none.mp puts
  have whole : next.world.Layered := Machine.layered_step step (course.tidy layered.tidy) fun none => absurd none puts
  rw [settings, whole.inForce, layers]

/-- Somebody listens when a setting is about to be set. -/
def repeating (value : Value) : Machine :=
  ((({} : World).doing (.onSettings "told" [] [])).play 9 [] []).2.world.doing (.update "a" value)

theorem course_repeating (value : Value) : ∃ past, Course {} past (repeating value) ∧
    past.all (fun passed => passed.coming?.all Action.keysApart) = true := by
  have ended : ((({} : World).doing (.onSettings "told" [] [])).play 9 [] []).2.stack.isEmpty = true := rfl
  exact ⟨_, ((Course.start _).play 9 []).act _ (List.isEmpty_iff.mp ended), rfl⟩

/-- What is passed while it is set. -/
def repeatedPath (value : Value) : List Machine × Machine :=
  match (repeating value).step? with
  | some next => next.play 9 [] []
  | none => ([], repeating value)

theorem onward_repeatedPath {value : Value} {next : Machine} (step : (repeating value).step? = some next) :
    next.Onward (repeatedPath value).1 (repeatedPath value).2 := by
  simp only [repeatedPath, step]
  exact Machine.Onward.start.play 9 []

/-- The setting is about to be set again. -/
def repeatedAgain (value : Value) : Machine := (repeatedPath value).2.world.doing (.update "a" value)

/-- A section with a list, in which not a number is the same as itself, a set and a null. -/
def repeatedSection : Value :=
  .map [(.text "b", .list [.scalar (.float (.nan (.fresh 0 0))), .scalar (.int 1)]),
    (.text "c", .map [(.bool true, .set [.text "x"]), (.int 2, .null)])]

/-- A section that is set twice while somebody is told of it: the second time there is nothing to tell. -/
theorem repeated_action_section : ∃ (m next last again : Machine) (past during : List Machine), Course {} past m ∧
    m.step? = some next ∧ next.announced = [["a.b", "a.c.True"]] ∧ next.Onward during last ∧
    last.step? = some again ∧ again.announced = [] ∧ again.mode = .answered .null ∧
    again.world.layers = last.world.layers ∧ again.world.settings = last.world.settings := by
  let m := repeating repeatedSection
  let last := repeatedAgain repeatedSection
  let during := (repeatedPath repeatedSection).2 :: (repeatedPath repeatedSection).1
  obtain ⟨past, course, given⟩ := course_repeating repeatedSection
  have now : (m.step?.map Machine.announced) = some [["a.b", "a.c.True"]] ∧
      (repeatedPath repeatedSection).2.stack.isEmpty = true ∧
      (during.all fun passed => passed.puts?.isNone && passed.torn?.isNone &&
        passed.coming?.all Action.keysApart) = true ∧
      m.coming?.all Action.keysApart = true ∧ last.puts?.isSome = true ∧
      (last.world.settings.all fun entry => !entry.2.isNan) = true := by
    decide +kernel
  obtain ⟨first, ended, quiet, own, puts, numbers⟩ := now
  obtain ⟨next, step, told⟩ := Option.map_eq_some_iff.mp first
  have path : next.Onward during last := (onward_repeatedPath step).act _ (List.isEmpty_iff.mp ended)
  have calm (passed : Machine) (member : passed ∈ during) : (passed.puts? = none ∧ passed.torn? = none) ∧
      passed.coming?.all Action.keysApart = true := by
    simpa using List.all_eq_true.mp quiet passed member
  obtain ⟨again, keys, step', _, _, same, answered, announced, _, exactly⟩ :=
    course.repeated_action World.layered_empty World.keysApart_empty rfl rfl rfl step path
      (fun passed member => (calm passed member).1) (fun passed member => by
        rcases List.mem_append.mp member with here | before
        · exact (calm passed here).2
        · rcases List.mem_cons.mp before with rfl | before
          · exact own
          · exact List.all_eq_true.mp given passed before) rfl rfl
  have silent : keys = [] := by
    rw [List.eq_nil_iff_forall_not_mem]
    intro key member
    obtain ⟨_, _, v, found, nan⟩ := (exactly key).mp member
    have number := List.all_eq_true.mp numbers _ (Entries.mem_of_get? found)
    simp [nan] at number
  obtain ⟨layers, settings⟩ := same fun value empty => by simp at empty
  exact ⟨m, next, last, again, past, during, course, step, told, path, step', by rw [announced, silent]; rfl,
    answered puts, layers, settings⟩

/-- A setting that is not a number is announced each time it is set, and again when it is set to what it is. -/
theorem repeated_action_nan : ∃ (m next last again : Machine) (past during : List Machine) (value : Value),
    Course {} past m ∧ m.stack = [.actions [.update "a" value]] ∧ m.step? = some next ∧ next.Onward during last ∧
    (during.all fun passed => passed.puts?.isNone && passed.torn?.isNone) = true ∧ last.announced = [] ∧
    last.stack = [.actions [.update "a" value]] ∧ last.step? = some again ∧ again.announced = [["a"]] := by
  let value : Value := .scalar (.float (.nan (.fresh 0 0)))
  let during := (repeatedPath value).2 :: (repeatedPath value).1
  obtain ⟨past, course, _⟩ := course_repeating value
  have now : (repeating value).step?.isSome = true ∧ (repeatedPath value).2.stack.isEmpty = true ∧
      (during.all fun passed => passed.puts?.isNone && passed.torn?.isNone) = true ∧
      ((repeatedAgain value).step?.map Machine.announced) = some [["a"]] := by
    decide +kernel
  obtain ⟨first, ended, quiet, second⟩ := now
  obtain ⟨next, step⟩ := Option.isSome_iff_exists.mp first
  obtain ⟨again, step', told⟩ := Option.map_eq_some_iff.mp second
  have path : next.Onward during (repeatedAgain value) := (onward_repeatedPath step).act _ (List.isEmpty_iff.mp ended)
  exact ⟨_, next, _, again, past, during, value, course, rfl, step, path, quiet, rfl, rfl, step', told⟩

end LayeredSettings

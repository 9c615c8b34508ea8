import LayeredSettings.Proofs.Session.Delivery

namespace LayeredSettings

namespace Machine

/-- The settings before and after the change that the step to come puts in force. -/
def alters? (m : Machine) : Option (Flat × Flat) :=
  match m.mode, m.stack with
  | .answered _, .actions (action :: _) :: _ =>
    (m.world.enforced? action).map fun layers => (m.world.settings, layers.effective)
  | _, _ => none

/-- Whether the step to come announces a change that touches the tool's settings. -/
def announces (m : Machine) : Bool :=
  match m.alters? with
  | some (before, after) => !neverDiffer before after && affects (changedKeys before after) toolSection
  | none => false

/-- A live record is still to be told of a change that touches the tool's settings. -/
def Promises (index : Nat) (m : Machine) : Prop :=
  ∃ upper keys handles tail, m.stack = upper ++ .notify .settings (.keys keys) handles :: tail ∧
    affects keys toolSection = true ∧ (m.world.live index).watch ∈ handles

variable {m next : Machine} {index : Nat}

theorem Sound.watch_step (sound : m.Sound) (step : m.step? = some next) (bound : index < m.world.lives.length) :
    (next.world.live index).watch = (m.world.live index).watch := by
  cases live_step sound step index with
  | kept _ _ same | closed _ _ same | asked _ _ same | read _ _ same | reported _ _ _ same | ended _ _ same =>
    simp [same, Live.asked, Live.read]
  | made new _ => omega

/-- An announcement goes on to a live record that is still to be told until it is told, or
until a failure breaks the announcement off. -/
theorem Sound.promise_step (sound : m.Sound) (step : m.step? = some next) {keys : List String}
    {handles : List Nat} {upper tail : List Frame}
    (stack : m.stack = upper ++ .notify .settings (.keys keys) handles :: tail)
    (affected : affects keys toolSection = true) (due : (m.world.live index).watch ∈ handles)
    (bound : index < m.world.lives.length) (opened : (m.world.live index).closed = false)
    (listening : (m.world.registry .settings).closed = false) :
    m.asks index = true ∨ (upper = [] ∧ ∃ f, m.mode = .failing f ∧ next = ⟨m.world, .failing f, tail⟩) ∨
      ∃ upper' handles', next.stack = upper' ++ .notify .settings (.keys keys) handles' :: tail ∧
        (m.world.live index).watch ∈ handles' := by
  have watch := (sound.tables.watched bound opened listening).2
  rcases due_subscriber_step step stack due with (calls | released) | broken | goes
  · obtain ⟨_, _, _, mode, shape⟩ := stack_of_call calls
    left
    simp [asks, mode, shape, opened, World.follows, watch, affected]
  · simp [World.isReleased, watch] at released
  · exact .inr (.inl broken)
  · exact .inr (.inr goes)

/-- All that readings depend on changes only where new layers come into force. -/
theorem context_step (step : m.step? = some next) :
    m.alters? = none ∧ next.world.context = m.world.context ∨
      ∃ after, m.alters? = some (m.world.settings, after) ∧ next.world.settings = after ∧
        next.world.context = { m.world.context with settings := [after] } := by
  cases moves step with
  | @act w v action actions rest outcome _ deed =>
    cases deed with
    | quiet mode none alike => exact .inl ⟨by simp [alters?, none], alike.context⟩
    | fire _ none | attempt _ none | within _ _ none _ => exact .inl ⟨by simp [alters?, none], rfl⟩
    | letGo _ none _ => exact .inl ⟨by simp [alters?, none], (w.sameStore_release _).context⟩
    | @change u layers puts alike _ =>
      refine .inr ⟨layers.effective, by simp [alters?, puts], ?_⟩
      have after : (u.change layers).world = u.enforce layers := by
        rcases u.change_cases layers with ⟨_, same⟩ | ⟨_, same⟩ <;> rw [same]
      rw [after, ← alike.context]
      exact ⟨rfl, rfl⟩
    | close none _ => exact .inl ⟨by simp [alters?, none], (w.sameStore_closeLive _).context⟩
    | refresh own _ =>
      subst own
      exact .inl ⟨rfl, (w.sameStore_requestUpdate _).context⟩
    | make none | makeWith _ none => exact .inl ⟨by simp [alters?, none], w.sameStore_makeLive.context⟩
  | call _ found => exact .inl ⟨rfl, (World.alike_call _ _ found).context⟩
  | follow => exact .inl ⟨rfl, (World.sameStore_requestUpdate _ _).context⟩
  | left | unmade | unleft => exact .inl ⟨rfl, (World.sameStore_closeLive _ _).context⟩
  | released | parted | dropReleasing | interrupted => exact .inl ⟨rfl, (World.sameStore_release _ _).context⟩
  | _ => exact .inl ⟨rfl, rfl⟩

/-- Documents are read by the same loader all the time. -/
theorem loader_step (step : m.step? = some next) : next.world.host.loader = m.world.host.loader := by
  cases moves step with
  | @act w v action actions rest outcome _ deed =>
    cases deed with
    | quiet _ _ alike => exact alike.loader
    | @change u layers _ alike _ =>
      rcases u.change_cases layers with ⟨_, same⟩ | ⟨_, same⟩ <;> exact same ▸ alike.loader
    | fire | attempt | within => rfl
    | letGo => exact (w.sameStore_release _).loader
    | close => exact (w.sameStore_closeLive _).loader
    | refresh => exact (w.sameStore_requestUpdate _).loader
    | make | makeWith => exact w.sameStore_makeLive.loader
  | call _ found => exact (World.alike_call _ _ found).loader
  | follow => exact (World.sameStore_requestUpdate _ _).loader
  | left | unmade | unleft => exact (World.sameStore_closeLive _ _).loader
  | released | parted | dropReleasing | interrupted => exact (World.sameStore_release _ _).loader
  | _ => rfl

/-- What a step comes to that puts layers in force: the keys that differ are announced, unless
that cannot be told. -/
theorem alter_step (step : m.step? = some next) {before after : Flat} (alters : m.alters? = some (before, after)) :
    before = m.world.settings ∧ next.world.settings = after ∧ next.world.lives = m.world.lives ∧
      next.world.registry = m.world.registry ∧ ∃ v action actions rest, m.mode = .answered v ∧
      m.stack = .actions (action :: actions) :: rest ∧
      ((neverDiffer before after = true ∧ next.mode = .failing (.valueFault .endless) ∧
          next.stack = .actions actions :: rest) ∨
        (neverDiffer before after = false ∧ next.mode = .answered .null ∧
          next.stack = (if (changedKeys before after).isEmpty then []
            else m.world.notification .settings (.keys (changedKeys before after))) ++ .actions actions :: rest)) := by
  cases moves step with
  | @act w v action actions rest outcome _ deed =>
    simp only [alters?, Option.map_eq_some_iff, Prod.mk.injEq] at alters
    obtain ⟨layers, puts, rfl, rfl⟩ := alters
    cases deed with
    | @change u layers' puts' alike registry =>
      cases puts.symm.trans puts'
      have told (event : Event) : u.notification .settings event = w.notification .settings event := by
        simp only [World.notification, registry]
      rcases u.change_cases layers with ⟨endless, same⟩ | ⟨ends, same⟩
      · rw [alike.settings] at endless
        rw [same]
        exact ⟨rfl, rfl, alike.lives, registry, v, action, actions, rest, rfl, rfl, .inl ⟨endless, rfl, rfl⟩⟩
      · rw [alike.settings] at ends same
        rw [same]
        exact ⟨rfl, rfl, alike.lives, registry, v, action, actions, rest, rfl, rfl, .inr ⟨ends, rfl, by rw [told]⟩⟩
    | quiet _ none _ | fire _ none | attempt _ none | close none _ | make none | makeWith _ none
    | letGo _ none _ | within _ _ none _ =>
      cases none.symm.trans puts
    | refresh own _ =>
      subst own
      cases puts
  | _ => simp [alters?] at alters

/-- An announcement is made to all who follow the settings. -/
theorem announce_step (step : m.step? = some next) (announces : m.announces = true)
    (listening : (m.world.registry .settings).closed = false) :
    ∃ v action actions rest keys, m.mode = .answered v ∧ m.stack = .actions (action :: actions) :: rest ∧
      affects keys toolSection = true ∧ next.mode = .answered .null ∧ next.world.lives = m.world.lives ∧
      next.stack = .notify .settings (.keys keys) (m.world.registry .settings).handles :: .actions actions :: rest := by
  unfold Machine.announces at announces
  split at announces
  · next before after alters =>
    simp only [Bool.and_eq_true, Bool.not_eq_true'] at announces
    obtain ⟨ends, affected⟩ := announces
    obtain ⟨_, _, lives, _, v, action, actions, rest, mode, stack, ⟨endless, _⟩ | ⟨_, answered, told⟩⟩ :=
      alter_step step alters
    · rw [ends] at endless
      cases endless
    · have some : (changedKeys before after).isEmpty = false := by
        cases keys : changedKeys before after with
        | nil => simp [keys, affects] at affected
        | cons => rfl
      rw [some, World.notification_of_open listening] at told
      exact ⟨v, action, actions, rest, _, mode, stack, affected, answered, lives, told⟩
  · cases announces

/-- Every open record is to be told of an announced change. -/
theorem Sound.promises_of_announces (sound : m.Sound) (step : m.step? = some next) (announces : m.announces = true)
    (listening : (m.world.registry .settings).closed = false) (bound : index < m.world.lives.length)
    (opened : (m.world.live index).closed = false) : next.Promises index := by
  obtain ⟨_, _, actions, rest, keys, _, _, affected, _, lives, stack⟩ := announce_step step announces listening
  refine ⟨[], keys, _, .actions actions :: rest, stack, affected, ?_⟩
  have same : next.world.live index = m.world.live index := by simp only [World.live, lives]
  rw [same]
  exact (sound.tables.watched bound opened listening).1

end Machine

/-- Puts settings in force beside a list that lies in itself, as a reading of a file gives it. -/
def endlessChange (reading : Nat) (settings : List (Scalar × Value)) : Action :=
  .setLayers [("user", (.text "endless", .list [.enclosing ⟨0, false, reading⟩]) :: settings)]

end LayeredSettings

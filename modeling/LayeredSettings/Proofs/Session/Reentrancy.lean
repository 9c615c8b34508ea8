import LayeredSettings.Proofs.Session.Layering
import LayeredSettings.Proofs.Session.Subscription

namespace LayeredSettings

namespace Machine

/-- Whether a failure has come to an announcement: someone who was told of a change has failed. -/
def breaksOff (m : Machine) : Bool :=
  match m.mode, m.stack with
  | .failing _, .notify .settings _ _ :: _ => true
  | _, _ => false

/-- The step to come tells a subscriber of the settings that a key has changed. -/
def Tells (handle : Nat) (key : String) (m : Machine) : Prop :=
  ∃ keys, m.call? = some (.settings, .keys keys, handle) ∧ key ∈ keys

/-- A subscriber of the settings hears of the step to come: the settings are open, what that step
puts in force can be told, and no announcement is broken off. -/
structure Attends (handle : Nat) (m : Machine) : Prop where
  subscribed : handle ∈ (m.world.registry .settings).handles
  listening : (m.world.registry .settings).closed = false
  calm : m.breaksOff = false
  compared : ∀ before after, m.alters? = some (before, after) → neverDiffer before after = false

/-- What has become of a key for a subscriber: it has been told of a change, it is still to be told
of one, or the value is what it was in the beginning. -/
inductive Accounted (first : Machine) (during : List Machine) (handle : Nat) (key : String) (m : Machine) : Prop
  | told {passed : Machine} : passed ∈ during → passed.Tells handle key → Accounted first during handle key m
  | due {above below : List Frame} {keys : List String} {handles : List Nat} :
      m.stack = above ++ .notify .settings (.keys keys) handles :: below → key ∈ keys → handle ∈ handles →
      Accounted first during handle key m
  | same : sameAt first.world.settings m.world.settings key = true → Accounted first during handle key m
  | untouched : m.world.settings = first.world.settings → (∀ passed ∈ during, passed.alters? = none) →
      Accounted first during handle key m

variable {first m next : Machine} {during : List Machine} {handle : Nat} {key : String}

theorem Sound.accounted_step (sound : m.Sound) (step : m.step? = some next) (attends : m.Attends handle)
    (accounted : Accounted first during handle key m) : Accounted first (m :: during) handle key next := by
  obtain ⟨subscribed, listening, calm, compared⟩ := attends
  have told {passed : Machine} (member : passed ∈ during) (tells : passed.Tells handle key) :
      Accounted first (m :: during) handle key next := .told (List.mem_cons_of_mem _ member) tells
  have due {above below : List Frame} {keys : List String} {handles : List Nat}
      (stack : m.stack = above ++ .notify .settings (.keys keys) handles :: below) (changed : key ∈ keys)
      (waiting : handle ∈ handles) : Accounted first (m :: during) handle key next := by
    rcases due_subscriber_step step stack waiting with
      (calls | released) | ⟨rfl, f, failing, _⟩ | ⟨above', handles', stack', waiting'⟩
    · exact .told (List.mem_cons_self ..) ⟨keys, calls, changed⟩
    · obtain ⟨_, found⟩ := sound.tables.registered subscribed
      simp [World.isReleased, found] at released
    · simp [breaksOff, failing, stack] at calm
    · exact .due stack' changed waiting'
  rcases context_step step with ⟨quiet, context⟩ | ⟨after, alters, _⟩
  · have settings := World.settings_of_context context
    cases accounted with
    | told member tells => exact told member tells
    | due stack changed waiting => exact due stack changed waiting
    | same same => exact .same (settings ▸ same)
    | untouched same none =>
      refine .untouched (settings.trans same) fun passed member => ?_
      rcases List.mem_cons.mp member with rfl | earlier
      · exact quiet
      · exact none passed earlier
  · obtain ⟨_, settings, _, _, v, action, actions, rest, _, stack, outcome⟩ := alter_step step alters
    have ends := compared _ _ alters
    cases same : sameAt m.world.settings after key with
    | true =>
      cases accounted with
      | told member tells => exact told member tells
      | due stack changed waiting => exact due stack changed waiting
      | same before => exact .same (by rw [settings]; exact sameAt_trans before same)
      | untouched before => exact .same (by rw [settings, ← before]; exact same)
    | false =>
      have changed := mem_changedKeys_iff.mpr same
      rcases outcome with ⟨endless, _⟩ | ⟨_, _, told⟩
      · rw [ends] at endless
        cases endless
      · rw [if_neg (by simpa using List.ne_nil_of_mem changed), World.notification_of_open listening] at told
        exact .due (told.trans (List.nil_append _).symm) changed subscribed

theorem accounted_act (ended : m.stack = []) (action : Action) (accounted : Accounted first during handle key m) :
    Accounted first (m :: during) handle key (m.world.doing action) := by
  cases accounted with
  | told member tells => exact .told (List.mem_cons_of_mem _ member) tells
  | due stack => simp [ended] at stack
  | same same => exact .same same
  | untouched same none =>
    refine .untouched same fun passed member => ?_
    rcases List.mem_cons.mp member with rfl | earlier
    · simp [alters?, ended]
    · exact none passed earlier

end Machine

/-- Every key is accounted for to whoever hears of all that is done. -/
theorem Course.accounted {start : World} {past during : List Machine} {first m : Machine} {handle : Nat}
    (course : Course start past first) (fresh : start.Fresh) (path : first.Onward during m)
    (attends : ∀ passed ∈ during, passed.Attends handle) (key : String) :
    Machine.Accounted first during handle key m := by
  induction path with
  | start => exact .untouched rfl (by simp)
  | step path step ih =>
    obtain ⟨now, earlier⟩ := List.forall_mem_cons.mp attends
    exact ((course.onward path).sound fresh).accounted_step step now (ih earlier)
  | act action _ ended ih => exact Machine.accounted_act ended action (ih (List.forall_mem_cons.mp attends).2)

/-- Whoever is subscribed to the settings from one moment to another, at which no change is being
announced, is told meanwhile of every key whose value is not what it was, as long as the
settings are open, all changes can be told and no one who is told of one fails. Only a
value that differs from itself may not be told of, where nothing has been put in force. -/
theorem Course.change_delivered {start : World} {past during : List Machine} {first m : Machine} {handle : Nat}
    (course : Course start past first) (fresh : start.Fresh) (path : first.Onward during m)
    (subscribed : handle ∈ (first.world.registry .settings).handles)
    (kept : handle ∈ (m.world.registry .settings).handles) (ended : m.announced = [])
    (listening : ∀ passed ∈ during, (passed.world.registry .settings).closed = false)
    (calm : ∀ passed ∈ during, passed.breaksOff = false)
    (compared : ∀ passed ∈ during, ∀ before after, passed.alters? = some (before, after) →
      neverDiffer before after = false) {key : String}
    (differs : sameAt first.world.settings m.world.settings key = false) :
    (∃ passed ∈ during, ∃ keys, passed.call? = some (.settings, .keys keys, handle) ∧ key ∈ keys) ∨
      m.world.settings = first.world.settings ∧ ∀ passed ∈ during, passed.alters? = none := by
  have old := (course.sound fresh).tables.lt_of_registered subscribed
  have attends (passed : Machine) (member : passed ∈ during) : passed.Attends handle :=
    ⟨path.registered old kept member, listening passed member, calm passed member, compared passed member⟩
  cases course.accounted fresh path attends key with
  | told member tells => exact .inl ⟨_, member, tells⟩
  | due stack => simp [Machine.announced, stack, Frame.announced] at ended
  | same same =>
    rw [differs] at same
    cases same
  | untouched same none => exact .inr ⟨same, none⟩

/-- Two who are told of the settings. The first one sets another key twice when it is told. -/
def sharedSettings : List Machine × Machine :=
  (({} : World).doing (.onSettings "first" [] [[.update "b" (.text "x"), .update "b" (.text "y")]])).play 40 []
    [.onSettings "second" [] []]

/-- What comes of a change that both are told of. -/
def sharedChange : List Machine × Machine :=
  (sharedSettings.2.world.doing (.update "a" (.text "z"))).play 60 [sharedSettings.2] []

/-- The second one is told of the key that the first one sets. -/
theorem change_delivered_nested : ∃ past first during m, Course {} past first ∧ first.Onward during m ∧
    first.stack = [] ∧ m.stack = [] ∧ sameAt first.world.settings m.world.settings "b" = false ∧
    ∃ passed ∈ during, ∃ keys, passed.call? = some (.settings, .keys keys, 1) ∧ "b" ∈ keys := by
  have course : Course {} sharedSettings.1 sharedSettings.2 := (Course.start _).play 40 _
  have rest : sharedSettings.2.stack.isEmpty = true := by decide +kernel
  have path : sharedSettings.2.Onward sharedChange.1 sharedChange.2 :=
    (Machine.Onward.start.act _ (List.isEmpty_iff.mp rest)).play 60 []
  have facts : 1 ∈ (sharedSettings.2.world.registry .settings).handles ∧
      1 ∈ (sharedChange.2.world.registry .settings).handles ∧ sharedChange.2.stack.isEmpty = true ∧
      sameAt sharedSettings.2.world.settings sharedChange.2.world.settings "b" = false := by decide +kernel
  have before : (∀ passed ∈ sharedChange.1, (passed.world.registry .settings).closed = false ∧
        passed.breaksOff = false ∧ (passed.alters?.all fun change => !neverDiffer change.1 change.2) = true) ∧
      (sharedChange.1.any fun passed => passed.alters?.isSome) = true := by decide +kernel
  generalize sharedSettings = shared at course rest path facts
  generalize sharedChange = change at path facts before
  obtain ⟨subscribed, kept, ended, differs⟩ := facts
  obtain ⟨fine, altered⟩ := before
  have ended := List.isEmpty_iff.mp ended
  refine ⟨_, _, _, _, course, path, List.isEmpty_iff.mp rest, ended, differs, ?_⟩
  rcases course.change_delivered World.fresh_empty path subscribed kept (by simp [Machine.announced, ended])
    (fun passed member => (fine passed member).1) (fun passed member => (fine passed member).2.1)
    (fun passed member before after alters => by simpa [alters] using (fine passed member).2.2) differs with
    told | ⟨_, none⟩
  · exact told
  · obtain ⟨passed, member, some⟩ := List.any_eq_true.mp altered
    simp [none passed member] at some

/-- Someone who is told of settings with a list that lies in itself. -/
def endlessShared : List Machine × Machine :=
  (({} : World).doing (endlessChange 0 [])).play 40 [] [.onSettings "shared" [] []]

/-- What comes of a second reading of the file, which also gives another key. -/
def endlessSharedChange : List Machine × Machine :=
  (endlessShared.2.world.doing (endlessChange 1 [(.text "k", .scalar (.int 1))])).play 40 [endlessShared.2] []

/-- The settings before and after are never told apart, and no one is told of the key. -/
theorem change_delivered_endless : ∃ past first during m, Course {} past first ∧ first.Onward during m ∧
    first.stack = [] ∧ m.stack = [] ∧ sameAt first.world.settings m.world.settings "k" = false ∧
    (∀ passed ∈ m :: during, 0 ∈ (passed.world.registry .settings).handles ∧
      (passed.world.registry .settings).closed = false ∧ passed.breaksOff = false) ∧
    (during.any fun passed => passed.alters?.isSome) = true ∧ ∀ passed ∈ during, passed.call?.isNone = true := by
  have course : Course {} endlessShared.1 endlessShared.2 := (Course.start _).play 40 _
  have rest : endlessShared.2.stack.isEmpty = true := by decide +kernel
  have path : endlessShared.2.Onward endlessSharedChange.1 endlessSharedChange.2 :=
    (Machine.Onward.start.act _ (List.isEmpty_iff.mp rest)).play 40 []
  refine ⟨_, _, _, _, course, path, List.isEmpty_iff.mp rest, List.isEmpty_iff.mp ?_, ?_, ?_, ?_, ?_⟩ <;>
    decide +kernel

end LayeredSettings

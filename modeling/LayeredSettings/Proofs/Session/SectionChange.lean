import LayeredSettings.Proofs.Session.Layering
import LayeredSettings.Proofs.Store.Flattening
import LayeredSettings.Proofs.Store.Sections

namespace LayeredSettings

namespace World

/-- What a key reads, null if it names neither a setting nor a section. -/
def reads (w : World) (key : String) : Value := (w.settings.lookup? key).getD .null

/-- Layers and settings have been taken apart. -/
structure Flattened (w : World) : Prop where
  layers : w.layers.Flattened
  settings : Flat.Plain w.settings

theorem flattened_empty : Flattened {} := ⟨Layers.flattened_empty, by simp, List.nodup_nil⟩

theorem Flattened.load {w v : World} {roots : List Path} (flattened : w.layers.Flattened)
    (loaded : w.load roots = .ok v) : v.Flattened := by
  obtain ⟨_, _, data, _, layers, inForce, _⟩ := load_cases loaded
  have whole : v.layers.Flattened := layers ▸ flattened.replace data
  exact ⟨whole, inForce ▸ whole.plain_effective⟩

end World

namespace Machine

variable {m next : Machine} {key : String}

/-- Whether the step to come puts a change in force that is not announced: the settings are
closed, or it cannot be told what has changed. -/
def hushes (m : Machine) : Bool :=
  match m.alters? with
  | some (before, after) => (m.world.registry .settings).closed || neverDiffer before after
  | none => false

/-- The step to come announces a change that touches a section. -/
def Announces (m : Machine) (key : String) : Prop :=
  ∃ next keys, m.step? = some next ∧ next.announced = keys :: m.announced ∧ affects keys key = true

/-- The step to come changes the order of settings that lie inside each other in a section. -/
def Reorders (m : Machine) (key : String) : Prop :=
  ∃ before after, m.alters? = some (before, after) ∧ Flat.Reordered before after key

theorem flattened_step (step : m.step? = some next) (flattened : m.world.Flattened) : next.world.Flattened := by
  have layers := lasts_step Layers.lasting_flattened step flattened.layers
  refine ⟨layers, ?_⟩
  rcases context_step step with ⟨_, context⟩ | ⟨after, alters, settings, _⟩
  · rw [World.settings_of_context context]
    exact flattened.settings
  · rw [alters_eq, Option.map_eq_some_iff] at alters
    obtain ⟨put, puts, same⟩ := alters
    cases same
    rw [layers_step step, puts] at layers
    rw [settings]
    exact layers.plain_effective

/-- A step after which a key reads otherwise announces a change that touches it, or has changed the order
of settings in the section it names. -/
theorem reads_step (step : m.step? = some next) (flattened : m.world.Flattened) (aloud : m.hushes = false)
    (named : key ≠ "") : next.world.settings = m.world.settings ∨
      (m.world.reads key).equal (next.world.reads key) = true ∨ m.Announces key ∨ m.Reorders key := by
  rcases context_step step with ⟨_, context⟩ | ⟨after, alters, settings, _⟩
  · exact .inl (World.settings_of_context context)
  · right
    have plain := (flattened_step step flattened).settings
    have told := announced_of_alters step alters
    simp only [hushes, alters, Bool.or_eq_false_iff] at aloud
    obtain ⟨listening, ends⟩ := aloud
    cases touched : affects (changedKeys m.world.settings after) key with
    | true =>
      refine .inr (.inl ⟨next, _, step, ?_, touched⟩)
      have some : (changedKeys m.world.settings after).isEmpty = false := by
        cases keys : changedKeys m.world.settings after with
        | nil => simp [keys, affects] at touched
        | cons => rfl
      rw [told listening, ends, some]
      rfl
    | false =>
      by_cases reordered : Flat.Reordered m.world.settings after key
      · exact .inr (.inr ⟨_, after, alters, reordered⟩)
      · left
        rw [settings] at plain
        have same := Flat.lookup?_same flattened.settings plain named touched reordered
        simp only [World.reads, settings]
        generalize m.world.settings.lookup? key = v, after.lookup? key = w at same
        cases same with
        | some equal => exact equal
        | none => rfl

end Machine

namespace Course

variable {start : World} {past during : List Machine} {first m : Machine} {key : String}

theorem flattened (course : Course start past m) (flattened : start.Flattened) : m.world.Flattened := by
  induction course with
  | start action => exact flattened
  | step _ step ih => exact Machine.flattened_step step ih
  | act action _ _ ih => exact ih

/-- As long as nothing touches a key, it reads the very same as before or an equal value. -/
theorem reads_kept (course : Course start past first) (flattened : start.Flattened)
    (way : first.Onward during m) (aloud : ∀ passed ∈ during, passed.hushes = false) (named : key ≠ "") :
    (first.world.reads key = m.world.reads key ∨ (first.world.reads key).equal (m.world.reads key) = true) ∨
      ∃ passed ∈ during, passed.Announces key ∨ passed.Reorders key := by
  induction way with
  | start => exact .inl (.inl rfl)
  | @step during m next way step ih =>
    have before := (course.onward way).flattened flattened
    rcases ih fun passed member => aloud passed (List.mem_cons_of_mem _ member) with kept | ⟨passed, member, told⟩
    · rcases Machine.reads_step step before (aloud m (List.mem_cons_self ..)) named with same | equal | told
      · simp only [World.reads, same] at kept ⊢
        exact .inl kept
      · refine .inl (.inr ?_)
        rcases kept with same | equal'
        · rwa [same]
        · exact Value.equal_trans equal' equal
      · exact .inr ⟨m, List.mem_cons_self .., told⟩
    · exact .inr ⟨passed, List.mem_cons_of_mem _ member, told⟩
  | act action _ _ ih =>
    refine (ih fun passed member => aloud passed (List.mem_cons_of_mem _ member)).imp_right ?_
    rintro ⟨passed, member, told⟩
    exact ⟨passed, List.mem_cons_of_mem _ member, told⟩

/-- Wherever a key reads otherwise than before in the course of a program, a change that touches it has been
announced in between, unless settings that lie inside each other in the section it names have changed
their order. -/
theorem section_told (course : Course start past first) (flattened : start.Flattened)
    (way : first.Onward during m) (aloud : ∀ passed ∈ during, passed.hushes = false) (named : key ≠ "")
    (other : first.world.reads key ≠ m.world.reads key)
    (differs : (first.world.reads key).equal (m.world.reads key) = false) :
    ∃ passed ∈ during, passed.Announces key ∨ passed.Reorders key := by
  rcases course.reads_kept flattened way aloud named with (same | equal) | told
  · exact absurd same other
  · rw [differs] at equal
    cases equal
  · exact told

end Course

/-- A setting in a section, and a handler that sets another one there when it is told of a change. -/
def sectionSession : List Machine × Machine :=
  (({} : World).doing (.setLayers [("machine", [(.text "a", .map [(.text "b", .scalar (.int 1))])])])).play 40 []
    [.onSettings "nested" [] [[.update "a.c" (.text "x")]]]

/-- A change elsewhere, of which the handler is told. -/
def sectionChange : Machine := sectionSession.2.world.doing (.update "d" (.text "y"))

/-- The section reads otherwise after the change, which the handler's own change has announced. -/
theorem section_told_nested : ∃ past during m, Course {} past sectionChange ∧ sectionChange.Onward during m ∧
    (sectionChange.world.reads "a").equal (m.world.reads "a") = false ∧
    ∃ passed ∈ during, passed.Announces "a" ∨ passed.Reorders "a" := by
  have ended : sectionSession.2.stack.isEmpty = true := by decide +kernel
  have course : Course {} _ sectionChange := ((Course.start _).play 40 _).act _ (List.isEmpty_iff.mp ended)
  have way := (Machine.Onward.start : sectionChange.Onward [] _).play 40 []
  have now : ((sectionChange.play 40 [] []).1.all fun passed => !passed.hushes) = true ∧
      (sectionChange.world.reads "a").equal ((sectionChange.play 40 [] []).2.world.reads "a") = false ∧
      (sectionChange.world.reads "a").equal (sectionChange.world.reads "a") = true := by
    decide +kernel
  generalize sectionChange.play 40 [] [] = change at way now
  obtain ⟨aloud, differs, itself⟩ := now
  refine ⟨_, _, _, course, way, differs, course.section_told World.flattened_empty way (fun passed member => ?_)
    (by decide) (fun same => ?_) differs⟩
  · simpa using List.all_eq_true.mp aloud passed member
  · rw [← same, itself] at differs
    cases differs

/-- Two settings in two layers, of which one lies inside the other, and somebody who listens. -/
def swappedSession : List Machine × Machine :=
  (({} : World).doing (.setLayers [("machine", [(.text "a.b", .scalar (.int 1))]),
    ("user", [(.text "a.b.c", .scalar (.int 2))])])).play 40 [] [.onSettings "told" [] []]

/-- The two settings change their layers. -/
def swapping : Machine :=
  swappedSession.2.world.doing (.setLayers [("machine", [(.text "a.b.c", .scalar (.int 2))]),
    ("user", [(.text "a.b", .scalar (.int 1))])])

/-- A change in the section when the settings have been closed. -/
def muting : Machine :=
  (swappedSession.2.play 40 swappedSession.1 [.closeSettings]).2.world.doing (.update "a.d" (.text "x"))

/-- The section reads otherwise when the two change their layers, although no setting has changed and nothing is
announced, and of closed settings nothing is announced either. -/
theorem section_told_swapped :
    (∃ past next, Course {} past swapping ∧ swapping.step? = some next ∧ swapping.hushes = false ∧
      (swapping.world.reads "a").equal (next.world.reads "a") = false ∧
      next.stack.length = 1 ∧ next.announced.isEmpty = true) ∧
    ∃ past next, Course {} past muting ∧ muting.step? = some next ∧
      (muting.world.reads "a").equal (next.world.reads "a") = false ∧
      next.stack.length = 1 ∧ next.announced.isEmpty = true := by
  have ended : swappedSession.2.stack.isEmpty = true ∧
      (swappedSession.2.play 40 swappedSession.1 [.closeSettings]).2.stack.isEmpty = true := by decide +kernel
  have course : Course {} swappedSession.1 swappedSession.2 := (Course.start _).play 40 _
  have swaps : Course {} _ swapping := course.act _ (List.isEmpty_iff.mp ended.1)
  have mutes : Course {} _ muting := (course.play 40 [.closeSettings]).act _ (List.isEmpty_iff.mp ended.2)
  refine ⟨⟨_, _, swaps, rfl, ?_, ?_, ?_, ?_⟩, _, _, mutes, rfl, ?_, ?_, ?_⟩ <;> decide +kernel

end LayeredSettings

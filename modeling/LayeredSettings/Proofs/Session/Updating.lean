import LayeredSettings.Proofs.Session.Reload
import LayeredSettings.Proofs.Store.Navigation
import LayeredSettings.Proofs.Store.Update

namespace LayeredSettings

namespace Machine

variable {m : Machine} {v : Value} {key : String} {value : Value} {actions : List Action} {rest : List Frame}

/-- A value that cannot be taken apart is refused, and nothing has changed. -/
theorem refused_update_step (mode : m.mode = .answered v)
    (stack : m.stack = .actions (.update key value :: actions) :: rest) {fault : ValueFault}
    (found : entryFault? value = some fault) :
    m.step? = some ⟨m.world, .failing (.valueFault fault), .actions actions :: rest⟩ := by
  rw [step_of_perform mode stack]
  simp only [World.perform, found, List.nil_append]

/-- A key that is set is put in force before anything is told of it. -/
theorem update_step (mode : m.mode = .answered v) (stack : m.stack = .actions (.update key value :: actions) :: rest)
    (fine : entryFault? value = none) :
    ∃ next above, m.step? = some next ∧ next.stack = above ++ .actions actions :: rest ∧
      next.world.layers = m.world.layers.update key value ∧ next.world.settings = next.world.layers.effective := by
  have performed : m.world.perform (.update key value) = m.world.change (m.world.layers.update key value) := by
    simp only [World.perform, fine]
  have step := step_of_perform mode stack
  rw [performed] at step
  rcases m.world.change_cases (m.world.layers.update key value) with ⟨_, same⟩ | ⟨_, same⟩ <;> rw [same] at step <;>
    exact ⟨_, _, step, rfl, rfl, rfl⟩

end Machine

/-- The effect of setting a key, as long as nothing that is told of it replaces layers itself. A value that cannot be
taken apart is refused, and nothing has changed. Any other one has come to stand in the layer of the program in the
place of all that stood there at the key or inside its section, and each setting it is taken apart into is read under
its key; a null leaves what the files say. Elsewhere the settings in force are those of the layers from before,
which are the ones that were in force unless layers have been torn. -/
theorem Course.update_exact {start : World} {past : List Machine} {m : Machine} (course : Course start past m)
    (layered : start.Layered) {v : Value} (mode : m.mode = .answered v) {key : String} {value : Value}
    {actions : List Action} {rest : List Frame} (stack : m.stack = .actions (.update key value :: actions) :: rest)
    (named : key ≠ "") :
    (∀ fault, entryFault? value = some fault →
      m.step? = some ⟨m.world, .failing (.valueFault fault), .actions actions :: rest⟩) ∧
    (entryFault? value = none → ∃ next above, m.step? = some next ∧ next.stack = above ++ .actions actions :: rest ∧
      ∀ during last, Machine.Above (rest.length + 1) next during last →
        (∀ passed ∈ during, passed.puts? = none ∧ passed.torn? = none) →
        m.world.layers.Updated last.world.layers key value ∧
        last.world.settings.remove key = m.world.layers.effective.remove key ∧
        (Machine.settled past = true → last.world.settings.remove key = m.world.settings.remove key) ∧
        (∀ default, value.isLeaf = true → value ≠ .null →
          last.world.run (.get key default) = (last.world, .ok value)) ∧
        (∀ entries, value = .map entries → last.world.layers.memory.within key = flatten key entries ∧
          ∀ other v default, Entries.get? (flatten key entries) other = some v →
            last.world.run (.get other default) = (last.world, .ok v)) ∧
        (value = .null →
          last.world.settings.within key = (m.world.layers.set .memory []).effective.within key)) := by
  refine ⟨fun fault found => Machine.refused_update_step mode stack found, fun fine => ?_⟩
  obtain ⟨next, above, step, stacked, layers, inForce⟩ := Machine.update_step mode stack fine
  refine ⟨next, above, step, stacked, fun during last path quiet => ?_⟩
  obtain ⟨layersKept, settingsKept, _⟩ := path.layers_kept quiet
  have updated : m.world.layers.Updated last.world.layers key value := by
    rw [layersKept, layers]
    exact m.world.layers.updated_update named value
  have effective : last.world.settings = last.world.layers.effective := by rw [settingsKept, inForce, layersKept]
  have tidy : last.world.layers.Tidy := by
    rw [layersKept, layers]
    exact (course.tidy layered.tidy).update key value
  have elsewhere : last.world.settings.remove key = m.world.layers.effective.remove key :=
    effective ▸ updated.remove_effective
  have reads {other : String} {w : Value} (found : Entries.get? (flattenEntry key value) other = some w)
      (default : Value) : last.world.run (.get other default) = (last.world, .ok w) := by
    refine World.run_get_of_get? ?_ default
    rw [effective, tidy.get?_effective, updated.highest?_of_get? tidy found]
  refine ⟨updated, elsewhere, fun settled => ?_, fun default leaf filled => ?_, ?_, ?_⟩
  · rw [elsewhere, (course.layered layered settled).inForce]
  · refine reads ?_ default
    rw [flattenEntry_of_leaf leaf, if_neg (by simpa using Value.isNull_eq_false.mpr filled)]
    simp [Entries.get?]
  · rintro entries rfl
    have taken : flattenEntry key (.map entries) = flatten key entries := by rw [flattenEntry, flatten]
    exact ⟨updated.written.trans taken, fun other w default found => reads (taken ▸ found) default⟩
  · rintro rfl
    rw [effective]
    exact updated.within_effective

/-- A section with settings of a file and of the program, a key that begins with its name, and somebody who listens. -/
def updatingSession : List Machine × Machine :=
  (({} : World).doing (.setLayers [("machine", [(.text "a", .map [(.text "b", .scalar (.int 1))]),
    (.text "ab", .text "y")])])).play 40 [] [.onSettings "told" [] [], .update "a.e" (.text "old")]

/-- What the section is set to. -/
def updatingSection : List (Scalar × Value) :=
  [(.text "b", .scalar (.int 2)), (.text "c", .map [(.text "d", .text "x")])]

/-- A section is set while somebody is told of it: what stood there is gone, and the key that looks alike is not
touched. -/
theorem update_exact_listened : ∃ (m next last : Machine) (past during : List Machine), Course {} past m ∧
    m.step? = some next ∧ next.announced = [["a.b", "a.e", "a.c.d"]] ∧ next.Above 1 during last ∧
    last.stack.length = 1 ∧ last.world.layers.memory.within "a" = [("a.b", .scalar (.int 2)), ("a.c.d", .text "x")] ∧
    last.world.settings.remove "a" = [("ab", .text "y")] ∧
    last.world.run (.get "a.c.d" .null) = (last.world, .ok (.text "x")) := by
  let m := updatingSession.2.world.doing (.update "a" (.map updatingSection))
  have ended : updatingSession.2.stack.isEmpty = true ∧
      Machine.settled (updatingSession.2 :: updatingSession.1) = true := by
    decide +kernel
  have course : Course {} (updatingSession.2 :: updatingSession.1) m :=
    ((Course.start _).play 40 _).act _ (List.isEmpty_iff.mp ended.1)
  have elsewhere : m.world.settings.remove "a" = [("ab", .text "y")] := rfl
  have now : (m.step?.map fun next => (next.announced, (next.back 1 9 []).2.stack.length,
      (next.back 1 9 []).1.all fun passed => passed.puts?.isNone && passed.torn?.isNone)) =
        some ([["a.b", "a.e", "a.c.d"]], 1, true) := by decide +kernel
  obtain ⟨_, updates⟩ := course.update_exact World.layered_empty rfl rfl (by decide)
  obtain ⟨next, _, step, _, effect⟩ := updates rfl
  simp only [step, Option.map_some, Option.some.injEq, Prod.mk.injEq] at now
  obtain ⟨told, returned, quiet⟩ := now
  obtain ⟨_, _, kept, _, section', _⟩ := effect _ _ (Machine.Above.start.back 9) fun passed member => by
    simpa using List.all_eq_true.mp quiet passed member
  obtain ⟨written, reads⟩ := section' _ rfl
  exact ⟨m, next, _, _, _, course, step, told, Machine.Above.start.back 9, returned, written.trans rfl,
    (kept ended.2).trans elsewhere, reads "a.c.d" _ .null rfl⟩

/-- Where layers have been torn before, a setting that has not been in force comes into force with a key beside it. -/
theorem update_exact_torn : ∃ (m next last : Machine) (past during : List Machine), Course {} past m ∧
    m.mode = .answered .null ∧ m.stack = [.actions [.update "k" (.text "v")]] ∧ m.step? = some next ∧
    next.Above 1 during last ∧ last.stack.length = 1 ∧
    (during.all fun passed => passed.puts?.isNone && passed.torn?.isNone) = true ∧ isWithin "k" "a" = false ∧
    (Entries.get? m.world.settings "a").isNone = true ∧ (Entries.get? last.world.settings "a").isSome = true := by
  let data : List (String × List (Scalar × Value)) := [("machine", [(.text "a", .scalar (.int 1))]),
    ("user", [(.text "x", .map [(.int (10 ^ digitLimit), .scalar (.int 1))])])]
  let torn := (({} : World).doing (.setLayers data)).play 40 [] []
  have ended : torn.2.stack.isEmpty = true := by decide +kernel
  have course : Course {} torn.1 torn.2 := (Course.start _).play 40 []
  refine ⟨_, _, _, _, _, course.act (.update "k" (.text "v")) (List.isEmpty_iff.mp ended), rfl, rfl, rfl,
    Machine.Above.start.back 9, ?_, ?_, ?_, ?_, ?_⟩ <;> decide +kernel

end LayeredSettings

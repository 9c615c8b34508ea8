import LayeredSettings.Session.Potential

namespace LayeredSettings

namespace Machine

/-- Runs a machine until nothing is left to do. -/
def run (m : Machine) : Machine :=
  match h : m.step? with
  | none => m
  | some next =>
    have : PotentialLt next.potential m.potential := potential_step? h
    next.run
termination_by potentialLt_wf.wrap m.potential
decreasing_by exact this

theorem run_of_done {m : Machine} (done : m.step? = none) : m.run = m := by
  rw [run]
  split
  · rfl
  · next moved => rw [done] at moved; cases moved

theorem run_of_step {m next : Machine} (step : m.step? = some next) : m.run = next.run := by
  rw [run]
  split
  · next done => rw [step] at done; cases done
  · next moved =>
    rw [step] at moved
    cases moved
    rfl

end Machine

namespace World

/-- What an action comes to in a session: the session after it, and its answer or the
failure that left it. -/
def run (w : World) (action : Action) : World × Except Failure Value :=
  let m := Machine.run ⟨w, .answered .null, [.actions [action]]⟩
  (m.world, match m.mode with
    | .answered v => .ok v
    | .failing f => .error f)

/-- Opens folders in a session and reads the settings files that apply to them. -/
def load (w : World) (roots : List Path) : Except Failure World := do
  let folders ← roots.mapM (Folder.atPath w.host)
  let reading := w.readings + filesRead
  let data ← w.host.fileLayers reading (folders.head?.map Folder.path)
  match data.findSome? fun layer => entriesFault? layer.2 with
  | some fault => .error (.valueFault fault)
  | none => return { w with folders, readings := reading }.enforce (w.layers.replace data)

end World

end LayeredSettings

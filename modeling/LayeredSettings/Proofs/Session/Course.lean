import LayeredSettings.Session.Run

namespace LayeredSettings

namespace World

/-- The machine that begins an action. -/
def doing (w : World) (action : Action) : Machine := ⟨w, .answered .null, [.actions [action]]⟩

/-- A world in which nothing has been subscribed to, named or made yet. -/
structure Fresh (w : World) : Prop where
  registry : ∀ signal, w.registry signal = {}
  handles : w.handles = []
  names : w.names = []
  lives : w.lives = []
  current : w.current = none

theorem fresh_empty : Fresh {} where
  registry _ := rfl
  handles := rfl
  names := rfl
  lives := rfl
  current := rfl

end World

/-- A program that began in a world has come to a machine through others, the latest
first. It begins an action when nothing is left to do of the one before. -/
inductive Course (start : World) : List Machine → Machine → Prop
  | start (action : Action) : Course start [] (start.doing action)
  | step {past : List Machine} {m next : Machine} :
      Course start past m → m.step? = some next → Course start (m :: past) next
  | act {past : List Machine} {m : Machine} (action : Action) :
      Course start past m → m.stack = [] → Course start (m :: past) (m.world.doing action)

/-- A program has come from one machine to another through those passed, the latest first. -/
inductive Machine.Onward (first : Machine) : List Machine → Machine → Prop
  | start : Onward first [] first
  | step {during : List Machine} {m next : Machine} :
      Onward first during m → m.step? = some next → Onward first (m :: during) next
  | act {during : List Machine} {m : Machine} (action : Action) :
      Onward first during m → m.stack = [] → Onward first (m :: during) (m.world.doing action)

/-- A machine has come to another one through machines whose stacks are longer than
`depth`, the latest first. What stands on the stack up to that depth has waited. -/
inductive Machine.Above (depth : Nat) (first : Machine) : List Machine → Machine → Prop
  | start : Above depth first [] first
  | step {past : List Machine} {m next : Machine} :
      Above depth first past m → depth < m.stack.length → m.step? = some next →
      Above depth first (m :: past) next

namespace Machine

/-- What the innermost frame comes to. -/
def outcome (m : Machine) (frame : Frame) : Outcome :=
  match m.mode with
  | .answered v => m.world.resume v frame
  | .failing f => m.world.unwind f frame

theorem step?_of_stack {m : Machine} {frame : Frame} {rest : List Frame} (stack : m.stack = frame :: rest) :
    m.step? = some ⟨(m.outcome frame).world, (m.outcome frame).mode, (m.outcome frame).frames ++ rest⟩ := by
  cases mode : m.mode with
  | answered v => simp only [step?, outcome, stack, mode]
  | failing f => simp only [step?, outcome, stack, mode]

theorem step?_eq_some {m next : Machine} (step : m.step? = some next) :
    ∃ frame rest, m.stack = frame :: rest ∧
      next = ⟨(m.outcome frame).world, (m.outcome frame).mode, (m.outcome frame).frames ++ rest⟩ := by
  cases stack : m.stack with
  | nil =>
    unfold step? at step
    rw [stack] at step
    cases step
  | cons frame rest =>
    rw [step?_of_stack stack] at step
    exact ⟨frame, rest, rfl, (Option.some.inj step).symm⟩

theorem step?_eq_none_iff {m : Machine} : m.step? = none ↔ m.stack = [] := by
  constructor
  · intro ended
    cases stack : m.stack with
    | nil => rfl
    | cons frame rest => simp [step?_of_stack stack] at ended
  · intro stack
    unfold step?
    rw [stack]

/-- Only the innermost frame is touched by a step. -/
theorem suffix_step {m next : Machine} {above below : List Frame} (step : m.step? = some next)
    (stack : m.stack = above ++ below) (inside : above ≠ []) : ∃ others, next.stack = others ++ below := by
  obtain ⟨frame, rest, shape, rfl⟩ := step?_eq_some step
  cases above with
  | nil => exact absurd rfl inside
  | cons top others =>
    rw [shape, List.cons_append, List.cons.injEq] at stack
    exact ⟨(m.outcome frame).frames ++ others, by simp [stack.2]⟩

namespace Above

variable {depth : Nat} {first m : Machine} {during : List Machine} {above below : List Frame}

/-- What waits stays on the stack, and below something else in every machine passed. -/
theorem suffix (path : Above depth first during m) (above : List Frame) (stack : first.stack = above ++ below)
    (waits : below.length ≤ depth) : ∃ others, m.stack = others ++ below := by
  induction path with
  | start => exact ⟨above, stack⟩
  | step _ deep step ih =>
    obtain ⟨others, shape⟩ := ih
    refine suffix_step step shape ?_
    rintro rfl
    simp only [shape, List.nil_append] at deep
    omega

theorem deep (path : Above depth first during m) {passed : Machine} (member : passed ∈ during) :
    depth < passed.stack.length := by
  induction path with
  | start => simp at member
  | step _ deep _ ih =>
    rcases List.mem_cons.mp member with rfl | earlier
    · exact deep
    · exact ih earlier

theorem suffix_of_mem (path : Above depth first during m) (above : List Frame)
    (stack : first.stack = above ++ below) (waits : below.length ≤ depth) {passed : Machine}
    (member : passed ∈ during) : ∃ others, passed.stack = others ++ below := by
  induction path with
  | start => simp at member
  | step path deep _ ih =>
    rcases List.mem_cons.mp member with rfl | earlier
    · exact path.suffix above stack waits
    · exact ih earlier

/-- Every machine comes back to a given depth of its stack. -/
theorem exists_back (depth : Nat) (first : Machine) :
    ∃ during m, Above depth first during m ∧ m.stack.length ≤ depth := by
  suffices back : ∀ p m during, m.potential = p → Above depth first during m →
      ∃ during' m', Above depth first during' m' ∧ m'.stack.length ≤ depth from
    back _ first [] rfl .start
  intro p
  induction p using potentialLt_wf.induction with
  | _ p ih =>
    rintro m during rfl path
    by_cases deep : depth < m.stack.length
    · cases moved : m.step? with
      | none =>
        rw [step?_eq_none_iff.mp moved] at deep
        simp at deep
      | some next => exact ih _ (potential_step? moved) next (m :: during) rfl (path.step deep moved)
    · exact ⟨during, m, path, by omega⟩

/-- From every machine passed the way goes on to the same end. -/
theorem cut (path : Above depth first during m) {passed : Machine} (member : passed ∈ during) :
    ∃ later, Above depth passed later m := by
  induction path with
  | start => simp at member
  | step path deep step ih =>
    rcases List.mem_cons.mp member with rfl | earlier
    · exact ⟨_, start.step deep step⟩
    · obtain ⟨later, rest⟩ := ih earlier
      exact ⟨_, rest.step deep step⟩

theorem trans {middle : Machine} {later : List Machine} (path : Above depth first during middle)
    (next : Above depth middle later m) : Above depth first (later ++ during) m := by
  induction next with
  | start => exact path
  | step _ deep step ih => exact ih.step deep step

theorem of_next (path : Above depth first during m) :
    during = [] ∧ m = first ∨
      ∃ next later, first.step? = some next ∧ Above depth next later m ∧ during = later ++ [first] := by
  induction path with
  | start => exact .inl ⟨rfl, rfl⟩
  | @step past m next path deep step ih =>
    right
    rcases ih with ⟨rfl, rfl⟩ | ⟨second, later, begun, rest, rfl⟩
    · exact ⟨next, [], step, .start, rfl⟩
    · exact ⟨second, m :: later, begun, rest.step deep step, rfl⟩

/-- The way back to a lower depth leads through every machine on a way above it, for
there is only one way. -/
theorem through {lower : Nat} {last : Machine} {whole : List Machine} (path : Above lower first whole last)
    (back : last.stack.length ≤ lower) (le : lower ≤ depth) (way : Above depth first during m) :
    ∃ later, Above lower m later last ∧ whole = later ++ during := by
  induction way with
  | start => exact ⟨whole, path, by simp⟩
  | @step past m next _ deep step ih =>
    obtain ⟨later, rest, rfl⟩ := ih
    rcases rest.of_next with ⟨_, rfl⟩ | ⟨second, others, begun, rest, rfl⟩
    · omega
    · rw [step] at begun
      cases begun
      exact ⟨others, rest, by simp⟩

theorem unique {last : Machine} {whole : List Machine} (path : Above depth first whole last)
    (back : last.stack.length ≤ depth) (way : Above depth first during m) (ended : m.stack.length ≤ depth) :
    last = m ∧ whole = during := by
  obtain ⟨later, rest, rfl⟩ := path.through back (Nat.le_refl _) way
  rcases rest.of_next with ⟨rfl, rfl⟩ | ⟨_, later, _, _, rfl⟩
  · exact ⟨rfl, rfl⟩
  · exact absurd (rest.deep (by simp : m ∈ later ++ [m])) (by omega)

end Above

theorem Above.onward {depth : Nat} {first m : Machine} {during : List Machine} (path : Above depth first during m) :
    first.Onward during m := by
  induction path with
  | start => exact .start
  | step _ _ step ih => exact ih.step step

/-- A run is a way to the empty stack. -/
theorem exists_above_run (m : Machine) : ∃ during, Above 0 m during m.run ∧ m.run.stack = [] := by
  suffices onward : ∀ p m, m.potential = p → ∃ during, Above 0 m during m.run ∧ m.run.stack = [] from
    onward _ m rfl
  intro p
  induction p using potentialLt_wf.induction with
  | _ p ih =>
    rintro m rfl
    cases moved : m.step? with
    | none =>
      rw [run_of_done moved]
      exact ⟨[], .start, step?_eq_none_iff.mp moved⟩
    | some next =>
      obtain ⟨during, path, ended⟩ := ih _ (potential_step? moved) next rfl
      have deep : 0 < m.stack.length := by
        obtain ⟨frame, rest, stack, _⟩ := step?_eq_some moved
        simp [stack]
      rw [run_of_step moved]
      exact ⟨during ++ [m], (Above.start.step deep moved).trans path, ended⟩

/-- The machines passed in at most `fuel` steps with a stack longer than `depth`, the latest
first, and the machine come to. -/
def back (depth fuel : Nat) (past : List Machine) (m : Machine) : List Machine × Machine :=
  match fuel with
  | 0 => (past, m)
  | fuel + 1 =>
    if depth < m.stack.length then
      match m.step? with
      | none => (past, m)
      | some next => next.back depth fuel (m :: past)
    else (past, m)

/-- What each step on the way keeps holds of what is come to. -/
theorem back_induction {depth : Nat} {reached : List Machine → Machine → Prop}
    (onward : ∀ {past m next}, reached past m → depth < m.stack.length → m.step? = some next → reached (m :: past) next)
    {past : List Machine} {m : Machine} (now : reached past m) (fuel : Nat) :
    reached (m.back depth fuel past).1 (m.back depth fuel past).2 := by
  induction fuel generalizing m past with
  | zero => exact now
  | succ fuel ih =>
    unfold Machine.back
    split
    · next deep =>
      split
      · exact now
      · next moved => exact ih (onward now deep moved)
    · exact now

theorem Above.back {depth : Nat} {first m : Machine} {during : List Machine} (path : Above depth first during m)
    (fuel : Nat) : Above depth first (m.back depth fuel during).1 (m.back depth fuel during).2 :=
  back_induction .step path fuel

end Machine

namespace Course

variable {start : World} {past : List Machine} {m : Machine}

theorem onward {during : List Machine} {later : Machine} (course : Course start past m)
    (path : m.Onward during later) : Course start (during ++ past) later := by
  induction path with
  | start => exact course
  | step _ step ih => exact ih.step step
  | act action _ ended ih => exact ih.act action ended

theorem above {depth : Nat} {during : List Machine} {later : Machine} (course : Course start past m)
    (path : Machine.Above depth m during later) : Course start (during ++ past) later := course.onward path.onward

/-- Every action of a program comes to its end. -/
theorem run (course : Course start past m) : ∃ later, Course start later m.run ∧ m.run.stack = [] := by
  obtain ⟨during, path, ended⟩ := m.exists_above_run
  exact ⟨during ++ past, course.above path, ended⟩

theorem back (course : Course start past m) (depth fuel : Nat) :
    Course start (m.back depth fuel past).1 (m.back depth fuel past).2 :=
  Machine.back_induction (fun course _ step => course.step step) course fuel

end Course

/-- What comes of a machine and of some actions after it, each done with at most `fuel`
steps. -/
def Machine.play (fuel : Nat) (past : List Machine) (m : Machine) : List Action → List Machine × Machine
  | [] => m.back 0 fuel past
  | action :: actions =>
    match (m.back 0 fuel past).2.stack with
    | [] =>
      ((m.back 0 fuel past).2.world.doing action).play fuel ((m.back 0 fuel past).2 :: (m.back 0 fuel past).1)
        actions
    | _ => m.back 0 fuel past

theorem Machine.play_induction {reached : List Machine → Machine → Prop}
    (onward : ∀ {past m next}, reached past m → m.step? = some next → reached (m :: past) next)
    (begun : ∀ {past m}, reached past m → m.stack = [] → ∀ action, reached (m :: past) (m.world.doing action))
    {past : List Machine} {m : Machine} (now : reached past m) (fuel : Nat) (actions : List Action) :
    reached (m.play fuel past actions).1 (m.play fuel past actions).2 := by
  induction actions generalizing m past with
  | nil => exact back_induction (fun now _ step => onward now step) now fuel
  | cons action actions ih =>
    have rest : reached (m.back 0 fuel past).1 (m.back 0 fuel past).2 :=
      back_induction (fun now _ step => onward now step) now fuel
    unfold Machine.play
    split
    · next ended => exact ih (begun rest ended action)
    · exact rest

theorem Course.play {start : World} {past : List Machine} {m : Machine} (course : Course start past m)
    (fuel : Nat) (actions : List Action) :
    Course start (m.play fuel past actions).1 (m.play fuel past actions).2 :=
  Machine.play_induction .step (fun course ended action => course.act action ended) course fuel actions

theorem Machine.Onward.play {first m : Machine} {during : List Machine} (path : first.Onward during m)
    (fuel : Nat) (actions : List Action) : first.Onward (m.play fuel during actions).1 (m.play fuel during actions).2 :=
  Machine.play_induction .step (fun path ended action => path.act action ended) path fuel actions

/-- What comes of the first steps of an action after a machine at rest. -/
def Machine.begin (fuel : Nat) (past : List Machine) (m : Machine) (action : Action) : List Machine × Machine :=
  (m.world.doing action).back 0 fuel (m :: past)

theorem Course.begin {start : World} {past : List Machine} {m : Machine} (course : Course start past m)
    (ended : m.stack.isEmpty = true) (fuel : Nat) (action : Action) :
    Course start (m.begin fuel past action).1 (m.begin fuel past action).2 :=
  (course.act action (List.isEmpty_iff.mp ended)).back 0 fuel

/-- A live record with two handlers. The first one asks twice to be told of a newer
standard than that of the record, and the second one does some actions. -/
def askingSession (second : List Action) : List Machine × Machine :=
  (({} : World).doing .openLive).play 40 []
    [.onChange "asking" [[.update "CMakeLite.override.cppStandard" (.text "c++20"), .refresh]],
      .onChange "second" [second]]

/-- The first steps of the change that the handlers are told of. -/
def askingChange (second : List Action) (fuel : Nat) : List Machine × Machine :=
  (askingSession second).2.begin fuel (askingSession second).1
    (.update "CMakeLite.override.cppStandard" (.text "c++17"))

theorem course_askingChange {second : List Action} (ended : (askingSession second).2.stack.isEmpty = true)
    (fuel : Nat) : Course {} (askingChange second fuel).1 (askingChange second fuel).2 :=
  ((@Course.start {} .openLive).play 40 _).begin ended fuel _

end LayeredSettings

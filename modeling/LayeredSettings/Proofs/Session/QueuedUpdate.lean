import LayeredSettings.Proofs.Session.Announcement

namespace LayeredSettings

namespace Machine

variable {first m : Machine} {index : Nat} {queued : Bool} {above below : List Frame}

theorem asks_inside (asking : m.asks index = true) (stack : m.stack = above ++ .updating index queued :: below) :
    above ≠ [] := by
  rintro rfl
  unfold asks at asking
  cases mode : m.mode <;> simp [stack, mode] at asking

/-- The way of a request from where it is made to the end of the update under way. No
reading takes place until the loop is back, and then one takes place just if no
failure has come with it and the record is open. -/
theorem Sound.request_served (sound : m.Sound) (asking : m.asks index = true)
    (stack : m.stack = above ++ .updating index queued :: below) {during : List Machine} {back : Machine}
    (path : Above (below.length + 1) m during back) (returned : back.stack = .updating index queued :: below)
    {whole : List Machine} {last : Machine} (way : Above below.length m whole last)
    (ended : last.stack.length ≤ below.length) :
    ((∃ passed ∈ whole, passed.reads index = true) ↔
      (∃ v, back.mode = .answered v) ∧ (back.world.live index).closed = false) ∧
    ∀ f, back.mode = .failing f → last.mode = .failing f := by
  obtain ⟨silent, remembered⟩ := path.pending sound stack
  obtain ⟨later, rest, rfl⟩ := way.through ended (by omega) path
  obtain ⟨second, others, step, onward, rfl⟩ : ∃ second others, back.step? = some second ∧
      Above below.length second others last ∧ later = others ++ [back] := by
    rcases rest.of_next with ⟨_, same⟩ | found
    · rw [same, returned] at ended
      simp only [List.length_cons] at ended
      omega
    · exact found
  have due : (back.world.live index).pending = true := by
    have member : m ∈ during := by
      rcases path.of_next with ⟨_, same⟩ | ⟨_, _, _, _, rfl⟩
      · rw [same, stack] at returned
        have lengths := congrArg List.length returned
        simp only [List.length_append, List.length_cons] at lengths
        exact absurd (List.length_eq_zero_iff.mp (by omega)) (asks_inside asking stack)
      · simp
    rw [remembered, Bool.or_eq_true]
    exact .inr (List.any_eq_true.mpr ⟨m, member, asking⟩)
  cases going : back.reads index with
  | true =>
    have here := going
    unfold reads at here
    cases mode : back.mode with
    | failing f => simp [mode] at here
    | answered v =>
      simp only [mode, Bool.and_eq_true, Bool.not_eq_true'] at here
      refine ⟨⟨fun _ => ⟨⟨v, rfl⟩, here.2⟩, fun _ => ⟨back, by simp, going⟩⟩, by simp⟩
  | false =>
    obtain ⟨popped, fails⟩ := pops_of_not_reads step returned going
    obtain ⟨rfl, rfl⟩ : others = [] ∧ last = second := by
      rcases onward.of_next with nothing | ⟨_, _, _, _, same⟩
      · exact nothing
      · have deep := onward.deep (by simp [same] : second ∈ _)
        rw [popped] at deep
        omega
    refine ⟨⟨?_, ?_⟩, fails⟩
    · rintro ⟨passed, member, reading⟩
      rcases List.mem_append.mp member with here | earlier
      · have same : passed = back := by simpa using here
        rw [same, going] at reading
        cases reading
      · rw [silent passed earlier] at reading
        cases reading
    · rintro ⟨⟨v, mode⟩, opened⟩
      simp [reads, mode, atLoop, returned, Frame.isLoop, due, opened] at going

/-- An announcement on its way: as long as nothing comes between, it is still to be made. -/
theorem Above.announced {keys : List String} {handles : List Nat} {tail : List Frame} {during : List Machine}
    (path : Above tail.length first during m) (start : first.Sound)
    (stack : first.stack = .notify .settings (.keys keys) handles :: tail) (affected : affects keys toolSection = true)
    (due : (first.world.live index).watch ∈ handles) (bound : index < first.world.lives.length) :
    (∃ passed ∈ during, passed.asks index = true) ∨
      (∃ passed ∈ during, (passed.world.live index).closed = true ∨ (passed.world.registry .settings).closed = true) ∨
      (m.stack = tail ∧ ∃ f, m.mode = .failing f) ∨
      ∃ upper handles', m.stack = upper ++ .notify .settings (.keys keys) handles' :: tail ∧
        (m.world.live index).watch ∈ handles' ∧ index < m.world.lives.length := by
  induction path with
  | start => exact .inr (.inr (.inr ⟨[], handles, stack, due, bound⟩))
  | @step past m next path deep step ih =>
    have here := path.sound start
    rcases ih with
      ⟨passed, member, asking⟩ | ⟨passed, member, shut⟩ | ⟨popped, _⟩ | ⟨upper, handles', shape, due, bound⟩
    · exact .inl ⟨passed, List.mem_cons_of_mem _ member, asking⟩
    · exact .inr (.inl ⟨passed, List.mem_cons_of_mem _ member, shut⟩)
    · rw [popped] at deep
      omega
    · cases opened : (m.world.live index).closed with
      | true => exact .inr (.inl ⟨m, List.mem_cons_self .., .inl opened⟩)
      | false =>
        cases listening : (m.world.registry .settings).closed with
        | true => exact .inr (.inl ⟨m, List.mem_cons_self .., .inr listening⟩)
        | false =>
          rcases here.promise_step step shape affected due bound opened listening with
            asking | ⟨_, f, _, rfl⟩ | ⟨upper', handles'', shape', due'⟩
          · exact .inl ⟨m, List.mem_cons_self .., asking⟩
          · exact .inr (.inr (.inl ⟨rfl, f, rfl⟩))
          · refine .inr (.inr (.inr ⟨upper', handles'', shape', ?_, Nat.lt_of_lt_of_le bound (length_step step)⟩))
            rw [here.watch_step step bound]
            exact due'

/-- The way of an announcement: it asks for the record to be read, unless the record or the
settings are closed on the way or a failure breaks the announcement off. -/
theorem Sound.announcement_asks {next : Machine} (sound : m.Sound) (step : m.step? = some next)
    (announces : m.announces = true) (running : (m.world.live index).updating = true)
    (opened : (m.world.live index).closed = false) {during : List Machine} {back : Machine}
    (path : Above m.stack.length next during back) (returned : back.stack.length ≤ m.stack.length) :
    (∃ passed ∈ during, passed.asks index = true ∧ (passed.world.live index).updating = true) ∨
      (∃ passed ∈ m :: during, (passed.world.live index).closed = true ∨
        (passed.world.registry .settings).closed = true) ∨
      ∃ f, back.mode = .failing f := by
  cases listening : (m.world.registry .settings).closed with
  | true => exact .inr (.inl ⟨m, List.mem_cons_self .., .inr listening⟩)
  | false =>
    obtain ⟨above, queued, below, loop⟩ := sound.exists_loop running
    have bound := sound.lt_of_loop above loop
    obtain ⟨v, action, actions, rest, keys, _, stack, affected, _, lives, shape⟩ :=
      announce_step step announces listening
    have live : next.world.live index = m.world.live index := by simp only [World.live, lives]
    have due := (sound.tables.watched bound opened listening).1
    obtain ⟨others, waits⟩ : ∃ others, .actions actions :: rest = others ++ .updating index queued :: below := by
      cases above with
      | nil =>
        rw [stack] at loop
        cases loop
      | cons top others =>
        rw [stack, List.cons_append, List.cons.injEq] at loop
        exact ⟨.actions actions :: others, by rw [loop.2]; rfl⟩
    have depth : m.stack.length = (Frame.actions actions :: rest).length := by rw [stack]; rfl
    rw [depth] at path returned
    rcases path.announced (sound.step step) shape affected (by rw [live]; exact due) (by rw [lives]; exact bound)
      with ⟨passed, member, asking⟩ | ⟨passed, member, shut⟩ | ⟨_, failing⟩ | ⟨upper, handles, goes, _⟩
    · refine .inl ⟨passed, member, asking, ?_⟩
      obtain ⟨others', waiting⟩ := path.suffix_of_mem [_] shape (Nat.le_refl _) member
      have once := (path.sound_of_mem (sound.step step) member).loops index
      rw [waiting, waits] at once
      simp only [List.countP_append, List.countP_cons, Frame.isLoop, decide_true, if_true] at once
      cases running : (passed.world.live index).updating with
      | true => rfl
      | false => simp [running] at once
    · exact .inr (.inl ⟨passed, List.mem_cons_of_mem _ member, shut⟩)
    · exact .inr (.inr failing)
    · rw [goes] at returned
      simp only [List.length_append, List.length_cons] at returned
      omega

end Machine

/-- A request made while a live record is being updated is served before that update ends,
just if no failure comes back to the loop and the record is open then; a failure that
does come back ends the update. A change that touches the tool's settings makes such a
request, unless its announcement is broken off by a failure or by closing. -/
theorem Course.queued_update {start : World} {past : List Machine} {m : Machine} (course : Course start past m)
    (fresh : start.Fresh) {index : Nat} (running : (m.world.live index).updating = true) :
    (m.asks index = true → ∃ above below during back, m.stack = above ++ .updating index true :: below ∧
      Machine.Above (below.length + 1) m during back ∧ back.stack = .updating index true :: below ∧
      ∀ whole last, Machine.Above below.length m whole last → last.stack.length ≤ below.length →
        ((∃ passed ∈ whole, passed.reads index = true) ↔
          (∃ v, back.mode = .answered v) ∧ (back.world.live index).closed = false) ∧
        ∀ f, back.mode = .failing f → last.mode = .failing f) ∧
    (m.announces = true → (m.world.live index).closed = false → ∀ next, m.step? = some next →
      ∃ during back, Machine.Above m.stack.length next during back ∧ back.stack.length ≤ m.stack.length ∧
        ((∃ passed ∈ during, passed.asks index = true ∧ (passed.world.live index).updating = true) ∨
          (∃ passed ∈ m :: during, (passed.world.live index).closed = true ∨
            (passed.world.registry .settings).closed = true) ∨
          ∃ f, back.mode = .failing f)) := by
  have sound := course.sound fresh
  refine ⟨fun asking => ?_, fun announces opened next step => ?_⟩
  · obtain ⟨above, queued, below, stack⟩ := sound.exists_loop running
    have inside := Machine.asks_inside asking stack
    obtain rfl : queued = true := Seated.queued (stack ▸ sound.seated) inside
    obtain ⟨during, back, path, bounded⟩ := Machine.Above.exists_back (below.length + 1) m
    obtain ⟨others, shape⟩ := path.suffix _ stack (by simp)
    have returned : back.stack = .updating index true :: below := by
      rw [shape] at bounded ⊢
      simp only [List.length_append, List.length_cons] at bounded
      rw [List.length_eq_zero_iff.mp (by omega : others.length = 0), List.nil_append]
    exact ⟨above, below, during, back, stack, path, returned,
      fun whole last way ended => sound.request_served asking stack path returned way ended⟩
  · obtain ⟨during, back, path, returned⟩ := Machine.Above.exists_back m.stack.length next
    exact ⟨during, back, path, returned, sound.announcement_asks step announces running opened path returned⟩

/-- Where no handler fails, the request of the first one is served. -/
theorem queued_update_served : ∃ past m, Course {} past m ∧ m.asks 0 = true ∧
    ∃ above below during back, m.stack = above ++ .updating 0 true :: below ∧
      Machine.Above (below.length + 1) m during back ∧ back.stack = .updating 0 true :: below ∧
      ∀ whole last, Machine.Above below.length m whole last → last.stack.length ≤ below.length →
        ((∃ passed ∈ whole, passed.reads 0 = true) ↔
          (∃ v, back.mode = .answered v) ∧ (back.world.live 0).closed = false) ∧
        ∀ f, back.mode = .failing f → last.mode = .failing f := by
  have ended : (askingSession []).2.stack.isEmpty = true := by decide +kernel
  have course := course_askingChange ended 5
  have asking : (askingChange [] 5).2.asks 0 = true := by decide +kernel
  have running : ((askingChange [] 5).2.world.live 0).updating = true := by decide +kernel
  exact ⟨_, _, course, asking, (course.queued_update World.fresh_empty running).1 asking⟩

/-- Where the second handler fails, the request of the first one is forgotten: the update
ends with the record open and not read again. -/
theorem queued_update_lost : ∃ past m whole last, Course {} past m ∧ m.asks 0 = true ∧
    (m.world.live 0).updating = true ∧ Machine.Above 0 m whole last ∧ (last.world.live 0).updating = false ∧
    (last.world.live 0).closed = false ∧ ∀ passed ∈ whole, passed.reads 0 = false := by
  let second : List Action := [.fail (.raised .runtime "no")]
  have ended : (askingSession second).2.stack.isEmpty = true := by decide +kernel
  have course := course_askingChange ended 5
  refine ⟨_, _, _, _, course, ?_, ?_, (@Machine.Above.start 0 _).back 20, ?_, ?_, ?_⟩ <;> decide +kernel

end LayeredSettings

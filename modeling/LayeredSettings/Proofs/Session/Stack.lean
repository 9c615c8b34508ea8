import LayeredSettings.Proofs.Session.Moves

namespace LayeredSettings

namespace Frame

/-- Whether a frame is the loop that updates a live record. -/
def isLoop (index : Nat) : Frame → Bool
  | .updating i _ => i = index
  | _ => false

/-- Whether a frame notifies the changes of a live record. -/
def tellsChange (index : Nat) : Frame → Bool
  | .notify (.changes i) _ _ => i = index
  | _ => false

/-- What a frame stands on. The changes of a live record are notified by its loop; a
failure to read it, by its loop or where it follows the settings. -/
def Sits : Frame → List Frame → Prop
  | .actions _, rest => rest = [] ∨ (∃ signal event handles below, rest = .notify signal event handles :: below) ∨
      (∃ below, rest = .attempting :: below) ∨ (∃ index below, rest = .leaving index :: below) ∨
      (∃ handle shown below, rest = .releasing handle shown :: below) ∨ ∃ mode below, rest = .ending mode :: below
  | .attempting, rest => ∃ actions below, rest = .actions actions :: below
  | .notify (.changes index) _ _, rest => ∃ below, rest = .updating index true :: below
  | .notify (.failures index) _ _, rest => (∃ below, rest = .updating index true :: below) ∨
      ∃ event handles below, rest = .notify .settings event handles :: below
  | .notify .plain _ _, rest => ∃ actions below, rest = .actions actions :: below
  | .notify .settings _ _, rest => ∃ actions below, rest = .actions actions :: below
  | .updating index _, rest => (∃ below, rest = .following index :: below) ∨
      (∃ below, rest = .making index :: below) ∨ ∃ actions below, rest = .actions actions :: below
  | .following _, rest => ∃ event handles below, rest = .notify .settings event handles :: below
  | .making _, rest => ∃ actions below, rest = .actions actions :: below
  | .leaving _, rest => ∃ actions below, rest = .actions actions :: below
  | .releasing .., rest => ∃ actions below, rest = .actions actions :: below
  | .ending _, rest => ∃ actions below, rest = .actions actions :: below

/-- What a frame says of the world: the live records it is about are there, a handle to be
released serves none, subscribers are told the record in force, and those still to be told are subscribers of the
signal in the order of subscription. -/
def Fits (w : World) : Frame → Prop
  | .notify signal event handles => (∀ index, signal = .changes index → event = .record (w.live index).record) ∧
      handles.Pairwise (· < ·) ∧ ∀ handle ∈ handles, ∃ released listener,
        w.handles[handle]? = some ⟨released, .subscription signal listener⟩
  | .updating index _ => index < w.lives.length
  | .following index => index < w.lives.length
  | .making index => index < w.lives.length
  | .leaving index => index < w.lives.length
  | .releasing handle _ => w.Spare handle
  | .actions _ => True
  | .attempting => True
  | .ending _ => True

theorem Fits.mono {w v : World} {frame : Frame} (fits : frame.Fits w) (keeps : w.Keeps v)
    (longer : w.lives.length ≤ v.lives.length)
    (kept : ∀ index, frame.tellsChange index = true → (v.live index).record = (w.live index).record) :
    frame.Fits v := by
  cases frame with
  | notify signal event handles =>
    obtain ⟨shown, sorted, theirs⟩ := fits
    refine ⟨fun index own => ?_, sorted, fun handle member => ?_⟩
    · rw [kept index (by simp [tellsChange, own])]
      exact shown index own
    · obtain ⟨_, _, found⟩ := theirs handle member
      exact keeps.subscription found
  | updating | following | making | leaving => exact Nat.lt_of_lt_of_le fits longer
  | releasing => exact keeps.spare fits
  | actions | attempting | ending => trivial

theorem Fits.tail {w : World} {signal : Signal} {event : Event} {handle : Nat} {handles : List Nat}
    (fits : Fits w (.notify signal event (handle :: handles))) : Fits w (.notify signal event handles) :=
  ⟨fits.1, (List.pairwise_cons.mp fits.2.1).2, fun other member => fits.2.2 other (List.mem_cons_of_mem _ member)⟩

end Frame

/-- Every frame stands on what it can stand on. -/
def Seated : List Frame → Prop
  | [] => True
  | frame :: rest => frame.Sits rest ∧ Seated rest

theorem Seated.of_append {above below : List Frame} (seated : Seated (above ++ below)) : Seated below := by
  induction above with
  | nil => exact seated
  | cons _ _ ih => exact ih seated.2

/-- Nothing stands on a loop that has just begun. -/
theorem Frame.not_sits_begun (frame : Frame) (index : Nat) (below : List Frame) :
    ¬ frame.Sits (.updating index false :: below) := by
  cases frame with
  | notify signal event handles => cases signal <;> simp [Frame.Sits]
  | actions | attempting | updating | following | making | leaving | releasing | ending => simp [Frame.Sits]

/-- A loop that waits has read the record at least once. -/
theorem Seated.queued {above below : List Frame} {index : Nat} {queued : Bool}
    (seated : Seated (above ++ .updating index queued :: below)) (inside : above ≠ []) : queued = true := by
  obtain ⟨others, top, rfl⟩ := (List.eq_nil_or_concat above).resolve_left inside
  rw [List.concat_eq_append, List.append_assoc] at seated
  have sits := seated.of_append.1
  cases queued with
  | true => rfl
  | false => exact absurd sits (top.not_sits_begun index below)

theorem Seated.loop_of_tells {stack : List Frame} (seated : Seated stack) {index : Nat} {frame : Frame}
    (member : frame ∈ stack) (tells : frame.tellsChange index = true) :
    0 < stack.countP (Frame.isLoop index) := by
  induction stack with
  | nil => simp at member
  | cons top rest ih =>
    obtain ⟨sits, seated⟩ := seated
    rw [List.countP_cons]
    rcases List.mem_cons.mp member with rfl | inside
    · cases frame with
      | notify signal event handles =>
        cases signal with
        | changes i =>
          obtain ⟨below, rfl⟩ := sits
          have same : i = index := by simpa [Frame.tellsChange] using tells
          simp [Frame.isLoop, same]
        | plain | settings | failures => cases tells
      | actions | attempting | updating | following | making | leaving | releasing | ending => cases tells
    · have := ih seated inside
      omega

/-- What holds of the stack of every session: frames stand on what they can stand on, a
live record has one loop while it is being updated and none otherwise, and what the
frames say is so. -/
structure Machine.Sound (m : Machine) : Prop where
  tables : m.world.Sound
  seated : Seated m.stack
  loops : ∀ index, m.stack.countP (Frame.isLoop index) = if (m.world.live index).updating then 1 else 0
  fits : ∀ frame ∈ m.stack, frame.Fits m.world

theorem World.fits_notification {w : World} (sound : w.Sound) {signal : Signal} {event : Event}
    (shown : ∀ index, signal = .changes index → event = .record (w.live index).record) {frame : Frame}
    (member : frame ∈ w.notification signal event) : frame.Fits w := by
  simp only [notification] at member
  split at member
  · simp at member
  · rw [List.mem_singleton.mp member]
    refine ⟨shown, sound.ordered signal, fun handle inside => ?_⟩
    obtain ⟨listener, found⟩ := sound.registered inside
    exact ⟨false, listener, found⟩

theorem World.seated_notification (w : World) {signal : Signal} {event : Event} {rest : List Frame}
    (seated : Seated rest) (sits : ∀ handles, Frame.Sits (.notify signal event handles) rest) :
    Seated (w.notification signal event ++ rest) := by
  simp only [notification]
  split
  · exact seated
  · exact ⟨sits _, seated⟩

@[simp] theorem World.loops_notification (w : World) (signal : Signal) (event : Event) (index : Nat) :
    (w.notification signal event).countP (Frame.isLoop index) = 0 := by
  simp only [notification]
  split <;> simp [Frame.isLoop]

namespace Machine

variable {w v : World} {mode mode' : Mode} {frame : Frame} {rest frames : List Frame}

theorem sound_doing (sound : w.Sound) (idle : ∀ index, (w.live index).updating = false) (action : Action) :
    (w.doing action).Sound where
  tables := sound
  seated := ⟨.inl rfl, trivial⟩
  loops index := by simp [World.doing, Frame.isLoop, idle index]
  fits frame member := by
    simp only [World.doing, List.mem_singleton] at member
    subst member
    trivial

/-- Frames in place of the innermost one leave a machine sound if they can stand there and
say what is true of the world after it. -/
theorem Sound.next (sound : Sound ⟨w, mode, frame :: rest⟩) (frames : List Frame) (tables : v.Sound)
    (keeps : w.Keeps v) (seated : Seated (frames ++ rest)) (longer : w.lives.length ≤ v.lives.length)
    (loops : ∀ index, frames.countP (Frame.isLoop index) + (if (w.live index).updating then 1 else 0) =
      (if frame.isLoop index then 1 else 0) + if (v.live index).updating then 1 else 0)
    (kept : ∀ index, frame.isLoop index = false → (v.live index).record = (w.live index).record)
    (fits : ∀ f ∈ frames, f.Fits v) : Sound ⟨v, mode', frames ++ rest⟩ where
  tables := tables
  seated := seated
  loops index := by
    have before := sound.loops index
    have change := loops index
    simp only [List.countP_cons] at before
    simp only [List.countP_append]
    omega
  fits f member := by
    rcases List.mem_append.mp member with new | old
    · exact fits f new
    · refine (sound.fits f (List.mem_cons_of_mem _ old)).mono keeps longer fun index tells => ?_
      apply kept
      have once := sound.loops index
      have under := sound.seated.2.loop_of_tells old tells
      simp only [List.countP_cons] at once
      cases loop : frame.isLoop index with
      | false => rfl
      | true =>
        simp only [loop, if_true] at once
        split at once <;> omega

/-- A step that changes no live record. -/
theorem Sound.swap (sound : Sound ⟨w, mode, frame :: rest⟩) (frames : List Frame) (tables : v.Sound)
    (lives : v.lives = w.lives) (keeps : w.Keeps v) (seated : Seated (frames ++ rest))
    (plain : ∀ index, frame.isLoop index = false)
    (plains : ∀ index, frames.countP (Frame.isLoop index) = 0) (fits : ∀ f ∈ frames, f.Fits v) :
    Sound ⟨v, mode', frames ++ rest⟩ := by
  have live (index : Nat) : v.live index = w.live index := by simp only [World.live, lives]
  refine sound.next _ tables keeps seated (Nat.le_of_eq (by rw [lives])) (fun index => ?_)
    (fun index _ => by rw [live]) fits
  simp [plain, plains, live]

theorem Sound.pop (sound : Sound ⟨w, mode, frame :: rest⟩) (plain : ∀ index, frame.isLoop index = false) :
    Sound ⟨w, mode', rest⟩ :=
  sound.swap [] sound.tables rfl (.of_handles rfl) sound.seated.2 plain (fun _ => rfl) (by simp)

/-- A request leaves a mark on a record that is being updated, and a loop for one that is
not. -/
theorem Sound.request (sound : Sound ⟨w, mode, frame :: rest⟩) (mode' : Mode) (index : Nat) (frames : List Frame)
    (bound : index < w.lives.length) (seated : Seated (frames ++ rest))
    (sits : ∀ queued, Frame.Sits (.updating index queued) (frames ++ rest))
    (plain : ∀ i, frame.isLoop i = false) (plains : ∀ i, frames.countP (Frame.isLoop i) = 0)
    (fits : ∀ f ∈ frames, f.Fits w) :
    Sound ⟨(w.requestUpdate index).1, mode', (w.requestUpdate index).2 ++ (frames ++ rest)⟩ := by
  cases opened : (w.live index).closed with
  | true =>
    rw [World.requestUpdate_of_closed opened]
    exact sound.swap _ sound.tables rfl (.of_handles rfl) seated plain plains fits
  | false =>
    have tables := sound.tables.requestUpdate index
    rw [World.requestUpdate_of_open opened] at tables ⊢
    have records (i : Nat) : ((w.setLive index (w.live index).asked).live i).record = (w.live i).record := by
      rw [World.live_setLive]
      split
      · next same => rw [← same.1]; rfl
      · rfl
    rw [← List.append_assoc]
    refine sound.next _ tables (.of_handles rfl) ?_ (by simp) (fun i => ?_) (fun i _ => records i) ?_
    · split
      · exact seated
      · exact ⟨sits _, seated⟩
    · rw [World.live_setLive, plain]
      by_cases same : index = i
      · subst same
        cases running : (w.live index).updating <;> simp [plains, Frame.isLoop, bound, Live.asked]
      · cases running : (w.live index).updating <;> simp [plains, Frame.isLoop, same]
    · intro f member
      rcases List.mem_append.mp member with new | inside
      · split at new
        · simp at new
        · rw [List.mem_singleton.mp new]
          simpa [Frame.Fits] using bound
      · exact (fits f inside).mono (.of_handles rfl) (by simp) fun i _ => records i

theorem Sound.closeLive (sound : Sound ⟨w, mode, frame :: rest⟩) (frames : List Frame) {index : Nat}
    (bound : index < w.lives.length) (seated : Seated (frames ++ rest)) (plain : ∀ i, frame.isLoop i = false)
    (plains : ∀ i, frames.countP (Frame.isLoop i) = 0) (fits : ∀ f ∈ frames, f.Fits w) :
    Sound ⟨w.closeLive index, mode', frames ++ rest⟩ := by
  have records (i : Nat) : ((w.closeLive index).live i).record = (w.live i).record := by
    rw [World.live_closeLive]
    split
    · next same => rw [same.1]
    · rfl
  refine sound.next _ (sound.tables.closeLive bound) (w.keeps_closeLive index) seated (by simp) (fun i => ?_)
    (fun i _ => records i) (fun f member => ?_)
  · rw [World.live_closeLive]
    by_cases same : index = i
    · subst same
      simp [plain, plains, bound]
    · simp [plain, plains, same]
  · exact (fits f member).mono (w.keeps_closeLive index) (by simp) fun i _ => records i

/-- The loop ends, and the record is no longer being updated. -/
theorem Sound.endLoop {index : Nat} {queued : Bool} (sound : Sound ⟨w, mode, .updating index queued :: rest⟩)
    (log : List Entry) : Sound ⟨(w.endUpdate index).withLog log, mode', rest⟩ := by
  have bound : index < w.lives.length := sound.fits _ (List.mem_cons_self ..)
  have live (i : Nat) : ((w.endUpdate index).withLog log).live i =
      if index = i ∧ index < w.lives.length then { w.live index with updating := false, pending := false }
      else w.live i := w.live_setLive index i _
  refine sound.next [] ((sound.tables.endUpdate index).of_tables rfl rfl rfl rfl rfl)
    (.of_handles rfl) sound.seated.2 (by simp [World.withLog, World.endUpdate]) (fun i => ?_) (fun i _ => ?_)
    (by simp)
  · rw [live]
    by_cases same : index = i
    · subst same
      have once := sound.loops index
      simp only [List.countP_cons, Frame.isLoop, decide_true, if_true] at once
      cases running : (w.live index).updating with
      | true => simp [Frame.isLoop, bound]
      | false => simp [running] at once
    · simp [Frame.isLoop, same]
  · rw [live]
    split
    · next same => rw [← same.1]
    · rfl

/-- The loop goes on after it has notified someone. -/
theorem Sound.loop {index : Nat} {queued : Bool} (sound : Sound ⟨w, mode, .updating index queued :: rest⟩)
    {live : Live} {signal : Signal} {event : Event} (log : List Entry)
    (watch : live.watch = (w.live index).watch) (closed : live.closed = (w.live index).closed)
    (updating : live.updating = (w.live index).updating) (pending : live.pending = false)
    (own : signal = .changes index ∧ event = .record live.record ∨ signal = .failures index) :
    Sound ⟨(w.setLive index live).withLog log, mode',
      (w.notification signal event ++ [.updating index true]) ++ rest⟩ := by
  have bound : index < w.lives.length := sound.fits _ (List.mem_cons_self ..)
  have tables : ((w.setLive index live).withLog log).Sound :=
    (sound.tables.setLive watch (by simp [closed]) (by simp [pending])).of_tables rfl rfl rfl rfl rfl
  have now : ((w.setLive index live).withLog log).live index = live := World.live_setLive_self bound _
  have other {i : Nat} (differs : index ≠ i) : ((w.setLive index live).withLog log).live i = w.live i :=
    World.live_setLive_ne differs _
  have loop : (Frame.updating index true).Sits rest := sound.seated.1
  refine sound.next _ tables (.of_handles rfl) ?_ (by simp [World.withLog]) (fun i => ?_) (fun i differs => ?_)
    (fun f member => ?_)
  · rw [List.append_assoc]
    refine w.seated_notification ⟨loop, sound.seated.2⟩ fun handles => ?_
    rcases own with ⟨rfl, _⟩ | rfl
    · exact ⟨rest, rfl⟩
    · exact .inl ⟨rest, rfl⟩
  · by_cases same : index = i
    · subst same
      simp [Frame.isLoop, now, updating]
    · simp [Frame.isLoop, same, other same]
  · rw [other (by simpa [Frame.isLoop] using differs)]
  · rcases List.mem_append.mp member with told | loop
    · refine World.fits_notification tables (fun i changes => ?_) told
      rcases own with ⟨rfl, rfl⟩ | rfl
      · cases changes
        rw [now]
      · cases changes
    · rw [List.mem_singleton.mp loop]
      simpa [Frame.Fits, World.withLog] using bound

theorem Sound.withFollower (sound : Sound ⟨w, mode, frame :: rest⟩) :
    Sound ⟨w.withFollower, mode, frame :: rest⟩ where
  tables := sound.tables.withFollower
  seated := sound.seated
  loops index := by
    rw [sound.loops index, World.live_withFollower]
    by_cases same : index = w.lives.length
    · rw [if_pos same, World.live_of_le (Nat.le_of_eq same.symm)]
      rfl
    · rw [if_neg same]
  fits f member := by
    refine (sound.fits f member).mono (w.keeps_subscribe _ _) (by simp [World.length_withFollower]) fun index _ => ?_
    rw [World.live_withFollower]
    split
    · next same => rw [World.live_of_le (Nat.le_of_eq same.symm)]; rfl
    · rfl

theorem Sound.deed {action : Action} {actions : List Action} {outcome : Outcome}
    (sound : Sound ⟨w, mode, .actions (action :: actions) :: rest⟩) (deed : w.Deed action outcome) :
    Sound ⟨outcome.world, outcome.mode, outcome.frames ++ .actions actions :: rest⟩ := by
  have under : Seated ([.actions actions] ++ rest) := sound.seated
  have free : ∀ f ∈ [Frame.actions actions], f.Fits w := by simp [Frame.Fits]
  have told {v : World} (mode' : Mode) (tables : v.Sound) (lives : v.lives = w.lives) (keeps : w.Keeps v)
      {signal : Signal} (event : Event) (plain : signal = .plain ∨ signal = .settings) :
      Sound ⟨v, mode', v.notification signal event ++ .actions actions :: rest⟩ := by
    rw [← List.singleton_append, ← List.append_assoc]
    refine sound.swap _ tables lives keeps ?_ (by simp [Frame.isLoop]) (by simp [Frame.isLoop]) ?_
    · rw [List.append_assoc]
      refine v.seated_notification under fun handles => ?_
      rcases plain with rfl | rfl <;> exact ⟨actions, rest, rfl⟩
    · intro f member
      rcases List.mem_append.mp member with new | old
      · exact World.fits_notification tables (by rcases plain with rfl | rfl <;> simp) new
      · rw [List.mem_singleton.mp old]
        trivial
  have quiet {v : World} (mode' : Mode) (tables : v.Sound) (lives : v.lives = w.lives) (keeps : w.Keeps v) :
      Sound ⟨v, mode', .actions actions :: rest⟩ :=
    sound.swap [.actions actions] tables lives keeps under (by simp [Frame.isLoop])
      (by simp [Frame.isLoop]) (by simp [Frame.Fits])
  cases deed with
  | quiet mode' _ alike => exact quiet mode' (alike.sound sound.tables) alike.lives alike.keeps
  | fire value _ => exact told _ sound.tables rfl (.of_handles rfl) _ (.inl rfl)
  | attempt body _ =>
    exact sound.swap [.actions body, .attempting, .actions actions] sound.tables rfl (.of_handles rfl)
      ⟨.inr (.inr (.inl ⟨_, rfl⟩)), ⟨_, _, rfl⟩, under⟩ (by simp [Frame.isLoop]) (by simp [Frame.isLoop])
      (by simp [Frame.Fits])
  | @change v layers puts alike _ =>
    have tables := (alike.sound sound.tables).enforce layers
    rcases v.change_cases layers with ⟨_, same⟩ | ⟨_, same⟩
    · rw [same]
      exact quiet _ tables alike.lives alike.keeps
    · rw [same]
      simp only
      split
      · exact quiet _ tables alike.lives alike.keeps
      · exact told _ tables alike.lives alike.keeps _ (.inr rfl)
  | close _ current =>
    exact sound.closeLive [.actions actions] (sound.tables.present current) under (by simp [Frame.isLoop])
      (by simp [Frame.isLoop]) free
  | refresh _ current =>
    exact sound.request _ _ [.actions actions] (sound.tables.present current) under
      (fun _ => .inr (.inr ⟨_, _, rfl⟩)) (by simp [Frame.isLoop]) (by simp [Frame.isLoop]) free
  | make _ =>
    rw [World.makeLive_eq]
    have made := sound.withFollower.request (.answered .null) w.lives.length
      [.making w.lives.length, .actions actions] (by simp [World.length_withFollower])
      ⟨⟨_, _, rfl⟩, under⟩ (fun _ => .inr (.inl ⟨_, rfl⟩)) (by simp [Frame.isLoop]) (by simp [Frame.isLoop])
      (by simp [Frame.Fits, World.length_withFollower])
    simpa using made
  | makeWith body _ =>
    rw [World.makeLive_eq]
    have made := sound.withFollower.request (.answered .null) w.lives.length
      [.making w.lives.length, .actions body, .leaving w.lives.length, .actions actions]
      (by simp [World.length_withFollower])
      ⟨⟨_, _, rfl⟩, .inr (.inr (.inr (.inl ⟨_, _, rfl⟩))), ⟨_, _, rfl⟩, under⟩ (fun _ => .inr (.inl ⟨_, rfl⟩))
      (by simp [Frame.isLoop]) (by simp [Frame.isLoop])
      (by simp [Frame.Fits, World.length_withFollower])
    simpa using made
  | @letGo handle mode' _ spare =>
    have alike := w.alike_release spare
    exact sound.swap [.actions (w.parting handle), .ending mode', .actions actions] (alike.sound sound.tables)
      alike.lives alike.keeps ⟨.inr (.inr (.inr (.inr (.inr ⟨_, _, rfl⟩)))), ⟨_, _, rfl⟩, under⟩
      (by simp [Frame.isLoop]) (by simp [Frame.isLoop]) (by simp [Frame.Fits])
  | @within handle body shown _ spare =>
    exact sound.swap [.actions body, .releasing handle shown, .actions actions] sound.tables rfl (.of_handles rfl)
      ⟨.inr (.inr (.inr (.inr (.inl ⟨_, _, _, rfl⟩)))), ⟨_, _, rfl⟩, under⟩ (by simp [Frame.isLoop])
      (by simp [Frame.isLoop]) (by simp [Frame.Fits, spare sound.tables])

/-- A notification goes on to the next subscriber. -/
theorem Sound.forth {signal : Signal} {event : Event} {handle : Nat} {handles : List Nat}
    (sound : Sound ⟨w, mode, .notify signal event (handle :: handles) :: rest⟩) (mode' : Mode) (tables : v.Sound)
    (lives : v.lives = w.lives) (keeps : w.Keeps v) : Sound ⟨v, mode', .notify signal event handles :: rest⟩ := by
  have fits : Frame.Fits v (.notify signal event handles) :=
    ((sound.fits _ (List.mem_cons_self ..)).tail).mono keeps (Nat.le_of_eq (by rw [lives]))
      fun index _ => by simp only [World.live, lives]
  have sits : Frame.Sits (.notify signal event handles) rest := by
    have before := sound.seated.1
    cases signal <;> exact before
  exact sound.swap [.notify signal event handles] tables lives keeps ⟨sits, sound.seated.2⟩
    (by simp [Frame.isLoop]) (by simp [Frame.isLoop]) (by simpa using fits)

/-- A live record is closed where its making fails or its body is left. -/
theorem Sound.shut {index : Nat} (sound : Sound ⟨w, mode, frame :: rest⟩)
    (own : frame = .making index ∨ frame = .leaving index) : Sound ⟨w.closeLive index, mode', rest⟩ := by
  have bound : index < w.lives.length := by
    rcases own with rfl | rfl <;> exact sound.fits _ (List.mem_cons_self ..)
  exact sound.closeLive [] bound sound.seated.2 (by rcases own with rfl | rfl <;> simp [Frame.isLoop])
    (by simp) (by simp)

/-- A subscription is released where its body is left. -/
theorem Sound.relinquish {handle : Nat} {shown : Value} (sound : Sound ⟨w, mode, .releasing handle shown :: rest⟩) :
    Sound ⟨w.release handle, mode', rest⟩ := by
  have alike := w.alike_release fun _ => sound.fits _ (List.mem_cons_self ..)
  exact sound.swap [] (alike.sound sound.tables) alike.lives alike.keeps sound.seated.2
    (by simp [Frame.isLoop]) (by simp) (by simp)

/-- What is to be done on a release is done before the release ends. -/
theorem Sound.partWith {handle : Nat} {shown : Value} (sound : Sound ⟨w, mode, .releasing handle shown :: rest⟩)
    (ending : Mode) :
    Sound ⟨w.release handle, mode', .actions (w.parting handle) :: .ending ending :: rest⟩ := by
  have alike := w.alike_release fun _ => sound.fits _ (List.mem_cons_self ..)
  exact sound.swap [.actions (w.parting handle), .ending ending] (alike.sound sound.tables) alike.lives alike.keeps
    ⟨.inr (.inr (.inr (.inr (.inr ⟨_, _, rfl⟩)))), sound.seated⟩ (by simp [Frame.isLoop]) (by simp [Frame.isLoop])
    (by simp [Frame.Fits])

/-- A step leaves a machine sound. -/
theorem Sound.step {m next : Machine} (sound : m.Sound) (step : m.step? = some next) : next.Sound := by
  cases moves step with
  | done => exact sound.pop (by simp [Frame.isLoop])
  | act _ deed => exact sound.deed deed
  | attempted => exact sound.pop (by simp [Frame.isLoop])
  | told => exact sound.pop (by simp [Frame.isLoop])
  | @pass w v signal event handle handles rest _ _ => exact sound.forth _ sound.tables rfl (.of_handles rfl)
  | @call w v signal event handle handles rest released source name sections calls _ found =>
    have alike := w.alike_call event found
    have forth := sound.forth (.answered .null) (alike.sound sound.tables) alike.lives alike.keeps
    exact ⟨forth.tables, ⟨.inr (.inl ⟨_, _, _, _, rfl⟩), forth.seated⟩, by simpa [Frame.isLoop] using forth.loops,
      by simpa [Frame.Fits] using forth.fits⟩
  | @follow w v signal keys handle handles rest released source index _ found _ _ =>
    obtain ⟨_, _, there⟩ := (sound.fits _ (List.mem_cons_self ..)).2.2 handle (List.mem_cons_self ..)
    cases found.symm.trans there
    obtain ⟨rfl, bound, _⟩ := sound.tables.watching found
    have forth := sound.forth (.answered .null) sound.tables rfl (.of_handles rfl)
    refine sound.request _ _ [.following index, .notify .settings (.keys keys) handles] bound
      ⟨⟨_, _, _, rfl⟩, forth.seated⟩ (fun _ => .inl ⟨_, rfl⟩) (by simp [Frame.isLoop]) (by simp [Frame.isLoop]) ?_
    rintro frame (_ | ⟨_, _ | ⟨_, ⟨⟩⟩⟩)
    · exact bound
    · exact forth.fits _ (List.mem_cons_self ..)
  | @read w v index queued rest r log due opened own =>
    rw [← List.singleton_append, ← List.append_assoc]
    exact sound.loop log rfl rfl rfl rfl (.inl ⟨rfl, rfl⟩)
  | @report w v index rest f log due opened own _ =>
    rw [← List.singleton_append, ← List.append_assoc]
    exact sound.loop log rfl rfl rfl rfl (.inr rfl)
  | refuse log _ _ _ _ => exact sound.endLoop log
  | @finish w v index queued rest _ => exact sound.endLoop w.log
  | followed => exact sound.pop (by simp [Frame.isLoop])
  | @made w v index rest =>
    have bound : index < w.lives.length := sound.fits _ (List.mem_cons_self ..)
    have tables : World.Sound { w with current := some index } :=
      { sound.tables with present := fun current => Option.some.inj current ▸ bound }
    exact sound.swap [] tables rfl (.of_handles rfl) sound.seated.2 (by simp [Frame.isLoop])
      (by simp) (by simp)
  | left => exact sound.shut (.inr rfl)
  | released _ => exact sound.relinquish
  | parted _ | interrupted _ => exact sound.partWith _
  | ended => exact sound.pop (by simp [Frame.isLoop])
  | dropActions => exact sound.pop (by simp [Frame.isLoop])
  | caught => exact sound.pop (by simp [Frame.isLoop])
  | dropNotify => exact sound.pop (by simp [Frame.isLoop])
  | @dropUpdate w => exact sound.endLoop w.log
  | @reportFollowed w f index rest log _ =>
    have tables : (w.withLog log).Sound := sound.tables.of_tables rfl rfl rfl rfl rfl
    refine sound.swap (w.notification (.failures index) (.failure f)) tables rfl (.of_handles rfl) ?_
      (by simp [Frame.isLoop]) (by simp) fun frame member => World.fits_notification tables (by simp) member
    exact w.seated_notification sound.seated.2 fun _ => .inr sound.seated.1
  | dropFollowed _ => exact sound.pop (by simp [Frame.isLoop])
  | unmade => exact sound.shut (.inl rfl)
  | unleft => exact sound.shut (.inr rfl)
  | dropReleasing _ => exact sound.relinquish
  | dropEnding => exact sound.pop (by simp [Frame.isLoop])

end Machine

namespace Course

variable {start : World} {past : List Machine} {m : Machine}

/-- What has come about in a session that began fresh is sound. -/
theorem sound (course : Course start past m) (fresh : start.Fresh) : m.Sound := by
  induction course with
  | start action => exact Machine.sound_doing fresh.sound (fun index => by simp [World.live, fresh.lives]; rfl) action
  | step _ step ih => exact ih.step step
  | @act past m action _ ended ih =>
    refine Machine.sound_doing ih.tables (fun index => ?_) action
    have loops := ih.loops index
    simpa [ended] using loops

end Course

end LayeredSettings

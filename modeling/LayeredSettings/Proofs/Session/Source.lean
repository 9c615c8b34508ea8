import LayeredSettings.Proofs.Session.Loop

namespace LayeredSettings

/-- Whether a signal is one of a live record. -/
def Signal.isOf (index : Nat) : Signal → Bool
  | .changes i => i = index
  | .failures i => i = index
  | .plain | .settings => false

/-- Whether a frame is one of an action, rather than of a notification or of an update. -/
def Frame.isOwn : Frame → Bool
  | .actions _ | .attempting | .making _ | .leaving _ | .releasing .. | .ending _ => true
  | .notify .. | .updating .. | .following _ => false

namespace Machine

/-- Where a failure comes from that has just come to a stack. It comes to a notification out of
a handler, or from an update that it set off; to the loop that updates a live record out of
what the loop notifies; and to where a record follows the settings out of the loop. -/
inductive Source (m : Machine) (f : Failure) : List Frame → Prop
  | ended : Source m f []
  | own {frame : Frame} {rest : List Frame} : frame.isOwn = true → Source m f (frame :: rest)
  | handler {actions : List Action} {signal : Signal} {event : Event} {handles : List Nat} {below : List Frame} :
      m.mode = .failing f → m.stack = .actions actions :: .notify signal event handles :: below →
      Source m f (.notify signal event handles :: below)
  | told {index : Nat} {signal : Signal} {event : Event} {handles : List Nat} {below : List Frame} :
      m.mode = .failing f → signal.isOf index = true →
      m.stack = .notify signal event handles :: .updating index true :: below →
      Source m f (.updating index true :: below)
  | unheard {index : Nat} {event event' : Event} {handles handles' : List Nat} {below : List Frame} :
      m.mode = .failing f →
      m.stack = .notify (.failures index) event handles :: .notify .settings event' handles' :: below →
      Source m f (.notify .settings event' handles' :: below)
  | update {index : Nat} {queued : Bool} {below : List Frame} :
      m.mode = .failing f → m.stack = .updating index queued :: .following index :: below →
      Source m f (.following index :: below)
  | reading {index : Nat} {queued : Bool} {below : List Frame} :
      m.reads index = true → m.world.reading = .error f → (queued && f.isOfSettings) = false →
      m.stack = .updating index queued :: .following index :: below → Source m f (.following index :: below)
  | unfollowed {index : Nat} {event : Event} {handles : List Nat} {below : List Frame} :
      m.mode = .failing f → f.isOfSettings = false →
      m.stack = .following index :: .notify .settings event handles :: below →
      Source m f (.notify .settings event handles :: below)

theorem Sound.source {m next : Machine} (sound : m.Sound) (step : m.step? = some next) {f : Failure}
    (failing : next.mode = .failing f) : m.Source f next.stack := by
  have seated := sound.seated
  cases failing_step step failing with
  | acted _ same =>
    rw [same]
    exact .own rfl
  | refused stack reading failed other =>
    rw [stack] at seated
    rcases seated.1 with ⟨below, same⟩ | ⟨below, same⟩ | ⟨_, below, same⟩ <;> rw [same] at stack ⊢
    · exact .reading reading failed other stack
    · exact .own rfl
    · exact .own rfl
  | @passed top mode stack lost =>
    rw [stack] at seated
    have sits := seated.1
    cases top with
    | actions actions =>
      rcases sits with same | ⟨_, _, _, _, same⟩ | ⟨_, same⟩ | ⟨_, _, same⟩ | ⟨_, _, _, same⟩ | ⟨_, _, same⟩ <;>
        rw [same] at stack ⊢
      · exact .ended
      · exact .handler mode stack
      all_goals exact .own rfl
    | notify signal event handles =>
      cases signal with
      | changes index =>
        obtain ⟨below, same⟩ := sits
        rw [same] at stack ⊢
        exact .told mode (by simp [Signal.isOf]) stack
      | failures index =>
        rcases sits with ⟨below, same⟩ | ⟨_, _, below, same⟩ <;> rw [same] at stack ⊢
        · exact .told mode (by simp [Signal.isOf]) stack
        · exact .unheard mode stack
      | plain | settings =>
        obtain ⟨_, _, same⟩ := sits
        rw [same]
        exact .own rfl
    | updating index queued =>
      rcases sits with ⟨_, same⟩ | ⟨_, same⟩ | ⟨_, _, same⟩ <;> rw [same] at stack ⊢
      · exact .update mode stack
      · exact .own rfl
      · exact .own rfl
    | following index =>
      obtain ⟨_, _, _, same⟩ := sits
      rw [same] at stack ⊢
      exact .unfollowed mode (lost index rfl) stack
    | attempting | making | leaving | releasing | ending =>
      obtain ⟨_, _, same⟩ := sits
      rw [same]
      exact .own rfl
  | resumed stack =>
    rw [stack] at seated
    obtain ⟨_, _, same⟩ := seated.1
    rw [same]
    exact .own rfl

/-- How a machine has come about through the machines passed, the latest first, can be followed
back to an answer. -/
inductive Trace : List Machine → Machine → Prop
  | answered {past : List Machine} {m : Machine} {v : Value} : m.Sound → m.mode = .answered v → Trace past m
  | step {past : List Machine} {m next : Machine} : Trace past m → m.step? = some next → Trace (m :: past) next

namespace Trace

variable {past : List Machine} {m : Machine} {f : Failure}

theorem sound (trace : Trace past m) : m.Sound := by
  induction trace with
  | answered sound _ => exact sound
  | step _ step ih => exact ih.step step

theorem source (trace : Trace past m) (failing : m.mode = .failing f) :
    ∃ before earlier, past = before :: earlier ∧ Trace earlier before ∧ before.step? = some m ∧
      before.Source f m.stack := by
  cases trace with
  | answered _ mode =>
    rw [failing] at mode
    cases mode
  | step trace step => exact ⟨_, _, rfl, trace, step, trace.sound.source step failing⟩

end Trace

theorem Above.trace {depth : Nat} {first m : Machine} {during : List Machine} (path : Above depth first during m)
    (start : first.Sound) {v : Value} (mode : first.mode = .answered v) : Trace during m := by
  induction path with
  | start => exact .answered start mode
  | step _ _ step ih => exact ih.step step

end Machine

theorem Course.trace {start : World} {past : List Machine} {m : Machine} (course : Course start past m)
    (fresh : start.Fresh) : Machine.Trace past m := by
  induction course with
  | start action => exact .answered ((Course.start action).sound fresh) rfl
  | step _ step ih => exact ih.step step
  | act action course ended _ => exact .answered ((course.act action ended).sound fresh) rfl

end LayeredSettings

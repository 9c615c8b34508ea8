import LayeredSettings.Proofs.Override.Reading
import LayeredSettings.Proofs.Session.Source

namespace LayeredSettings

/-- Whether a failure that comes to a frame is one of the update of a live record. -/
def Frame.carries (index : Nat) : Frame → Bool
  | .updating i _ => i = index
  | .notify signal _ _ => signal.isOf index
  | _ => false

/-- Whether a frame can be come to by a failure as long as no handler fails and readings fail
only for the settings. -/
def Frame.admits (f : Failure) : Frame → Bool
  | .updating .. | .notify .. => false
  | .following _ => f.isOfSettings
  | .actions _ | .attempting | .making _ | .leaving _ | .releasing .. | .ending _ => true

/-- Whether a frame goes on until all inside it has been done, whatever is answered. -/
def Frame.endures : Frame → Bool
  | .notify .. | .updating _ true => true
  | _ => false

namespace Machine

/-- Whether a failure leaves a handler of one of some signals. -/
def raises (own : Signal → Bool) (m : Machine) : Bool :=
  match m.mode, m.stack with
  | .failing _, .actions _ :: .notify signal _ _ :: _ => own signal
  | _, _ => false

variable {m next : Machine} {index : Nat}

/-- No failure has come to the update of a live record. -/
def Spares (index : Nat) (m : Machine) : Prop :=
  ∀ f, m.mode = .failing f → ∀ frame ∈ m.stack.head?, frame.carries index = false

/-- A failure comes to the update of a live record only out of a handler. -/
theorem Sound.spares_step (sound : m.Sound) (step : m.step? = some next) (spares : m.Spares index)
    (calm : m.raises (Signal.isOf index) = false) : next.Spares index := by
  intro f failing frame first
  obtain ⟨rest, stack⟩ := List.head?_eq_some_iff.mp first
  have source := sound.source step failing
  rw [stack] at source
  cases source with
  | own inner => cases frame <;> first | rfl | cases inner
  | @handler _ signal _ _ _ mode shape =>
    cases own : signal.isOf index with
    | false => exact own
    | true => simp [raises, mode, shape, own] at calm
  | @told i signal event handles _ mode own shape =>
    have spared : signal.isOf index = false := spares f mode (.notify signal event handles) (by rw [shape]; rfl)
    cases same : decide (i = index) with
    | false => exact same
    | true => rw [← of_decide_eq_true same, own] at spared; cases spared
  | unheard | update | reading | unfollowed => rfl

/-- Whether the step to come is a reading that fails, and not with a failure of the settings. -/
def balks (m : Machine) : Bool :=
  match m.stack with
  | .updating index _ :: _ =>
    m.reads index &&
      match m.world.reading with
      | .error f => !f.isOfSettings
      | .ok _ => false
  | _ => false

theorem isOfSettings_of_not_balks {f : Failure} (expected : m.balks = false) (reading : m.reads index = true)
    (failed : m.world.reading = .error f) : f.isOfSettings = true := by
  obtain ⟨_, queued, rest, _, stack, _⟩ := reads_iff.mp reading
  simpa [balks, stack, reading, failed] using expected

/-- Readings fail only for the settings where every setting can be described and the pattern is
in bounds. The environment is assumed to be a plain mapping, so that the path of the compiler can
always be resolved. -/
theorem balks_eq_false (described : Flat.overrideNames.all m.world.settings.describable = true)
    (bounded : ∀ raw failure, m.world.settings.textOf (Flat.overrideKey "filterCompilerArgs") = some raw →
      checkPattern raw = .error failure → ∃ fault position, failure = .invalid fault position) :
    m.balks = false := by
  unfold balks
  split
  · cases reading : m.world.reading with
    | ok r => simp
    | error f => simp [isOfSettings_of_reading reading described bounded]
  · rfl

/-- A failure has come to no notification and no update. -/
def Contained (m : Machine) : Prop :=
  ∀ f, m.mode = .failing f → ∀ frame ∈ m.stack.head?, frame.admits f = true

theorem Sound.contained_step (sound : m.Sound) (step : m.step? = some next) (contained : m.Contained)
    (calm : m.raises (fun _ => true) = false) (expected : m.balks = false) : next.Contained := by
  intro f failing frame first
  obtain ⟨rest, stack⟩ := List.head?_eq_some_iff.mp first
  have source := sound.source step failing
  rw [stack] at source
  cases source with
  | own inner => cases frame <;> first | rfl | cases inner
  | handler mode shape => simp [raises, mode, shape] at calm
  | told mode _ shape | unheard mode shape | update mode shape => cases contained f mode _ (by rw [shape]; rfl)
  | reading reads failed => exact isOfSettings_of_not_balks expected reads failed
  | unfollowed mode other shape =>
    have admits := contained f mode _ (by rw [shape]; rfl)
    rw [Frame.admits, other] at admits
    cases admits

/-- A notification, or an update that has read its record, ends with an answer. -/
theorem Above.answers {first : Machine} {during : List Machine} {above below : List Frame} {frame : Frame}
    (path : Above below.length first during m) (start : first.Sound) (contained : first.Contained)
    (stack : first.stack = above ++ frame :: below) (endures : frame.endures = true)
    (calm : ∀ passed ∈ during, passed.raises (fun _ => true) = false ∧ passed.balks = false) :
    m.Contained ∧ ((∃ above frame, m.stack = above ++ frame :: below ∧ frame.endures = true) ∨
      m.stack = below ∧ ∃ v, m.mode = .answered v) := by
  induction path with
  | start => exact ⟨contained, .inl ⟨above, frame, stack, endures⟩⟩
  | @step past m next path deep step ih =>
    have here := path.sound start
    obtain ⟨contained, ⟨above, frame, stack, endures⟩ | ⟨popped, _⟩⟩ :=
      ih fun passed member => calm passed (List.mem_cons_of_mem _ member)
    · obtain ⟨calm, expected⟩ := calm m (List.mem_cons_self ..)
      refine ⟨here.contained_step step contained calm expected, ?_⟩
      cases above with
      | cons top others =>
        obtain ⟨others', shape⟩ := suffix_step step stack (by simp)
        exact .inl ⟨others', frame, shape, endures⟩
      | nil =>
        obtain ⟨w, mode, frames⟩ := m
        simp only [List.nil_append] at stack
        subst stack
        cases mode with
        | failing f =>
          have admits := contained f rfl frame rfl
          cases frame with
          | notify | updating => cases admits
          | actions | attempting | following | making | leaving | releasing | ending => cases endures
        | answered v =>
          cases moves step with
          | told => exact .inr ⟨rfl, _, rfl⟩
          | pass => exact .inl ⟨[], _, rfl, rfl⟩
          | call => exact .inl ⟨[_], _, rfl, rfl⟩
          | @follow _ _ signal keys _ handles _ _ _ i =>
            exact .inl ⟨(w.requestUpdate i).2 ++ [.following i], .notify signal (.keys keys) handles, by simp, rfl⟩
          | read | report => exact .inl ⟨_, _, rfl, rfl⟩
          | @refuse _ _ i queued _ f _ due opened failed other =>
            have reading : reads i ⟨w, .answered v, .updating i queued :: below⟩ = true :=
              reads_loop.mpr ⟨rfl, due, opened⟩
            cases queued with
            | false => cases endures
            | true =>
              rw [isOfSettings_of_not_balks expected reading failed] at other
              cases other
          | finish => exact .inr ⟨rfl, _, rfl⟩
          | _ => cases endures
    · rw [popped] at deep
      omega

end Machine

/-- In a session in which no handler fails and readings fail only for the settings, failures are
contained. -/
theorem Course.contained {start : World} {past : List Machine} {m : Machine} (course : Course start past m)
    (fresh : start.Fresh)
    (calm : ∀ passed ∈ past, passed.raises (fun _ => true) = false ∧ passed.balks = false) : m.Contained := by
  induction course with
  | start action => exact fun f failing => nomatch failing
  | act action _ _ => exact fun f failing => nomatch failing
  | @step past m next course step ih =>
    obtain ⟨quiet, expected⟩ := calm m (List.mem_cons_self ..)
    exact (course.sound fresh).contained_step step (ih fun passed member => calm passed (List.mem_cons_of_mem _ member))
      quiet expected

end LayeredSettings

import LayeredSettings.Override.Reading

namespace LayeredSettings

namespace Flat

/-- The text of a setting, none if it is absent or no text. -/
def textOf (flat : Flat) (key : String) : Option String := (flat.lookup? key).bind Value.text?

/-- The key of a setting of the record. -/
def overrideKey (name : String) : String := overrideSection ++ "." ++ name

/-- Whether a setting of the record can be described where it cannot be used. -/
def describable (flat : Flat) (name : String) : Bool := !((flat.lookup? (overrideKey name)).getD .null).holdsLong

def overrideNames : List String :=
  ["intelliSenseMode", "cppStandard", "cStandard", "compilerPath", "filterCompilerArgs"]

/-- The record of settings that can all be read. -/
def plainRecord (flat : Flat) (context : Context) : OverrideRecord where
  intelliSenseMode := (flat.textOf (overrideKey "intelliSenseMode")).bind Choice.ofText?
  cppStandard := (flat.textOf (overrideKey "cppStandard")).bind Choice.ofText?
  cStandard := (flat.textOf (overrideKey "cStandard")).bind Choice.ofText?
  compilerPath := (flat.textOf (overrideKey "compilerPath")).map (context.expand [] defaultPasses)
  filterCompilerArgs := flat.textOf (overrideKey "filterCompilerArgs")

/-- Why the filter pattern cannot be used, if it cannot. -/
def filterFailure? (flat : Flat) : Option Failure :=
  match flat.textOf (overrideKey "filterCompilerArgs") with
  | none => none
  | some raw =>
    match checkPattern raw with
    | .ok _ => none
    | .error failure => some (.ofPattern raw failure)

end Flat

theorem Value.eq_null {v : Value} (absent : v.isNull = true) : v = .null := by
  unfold isNull at absent
  split at absent
  · rfl
  · cases absent

theorem Value.eq_text {v : Value} {s : String} (text : v.text? = some s) : v = .text s := by
  unfold text? at text
  split at text
  · cases text
    rfl
  · cases text

namespace SettingReader

variable {α β : Type}

/-- A reader comes to a result whatever has been logged before. -/
def Comes (reader : SettingReader α) (result : Except Failure α) : Prop :=
  ∀ log, ∃ log', reader.run.run log = (result, log')

theorem Comes.pure (a : α) : Comes (pure a) (.ok a) := fun log => ⟨log, rfl⟩

theorem Comes.note (message : LogMessage) : Comes (note message) (.ok ()) := fun log => ⟨log ++ [message], rfl⟩

theorem Comes.throw (f : Failure) : Comes (throw f : SettingReader α) (.error f) := fun log => ⟨log, rfl⟩

/-- What is done afterwards starts with the log that a reader has left, and is not done where the reader fails. -/
theorem run_bind (reader : SettingReader α) (next : α → SettingReader β) (log : List LogMessage) :
    (reader >>= next).run.run log =
      match reader.run.run log with
      | (.ok a, log') => (next a).run.run log'
      | (.error f, log') => (.error f, log') := by
  rw [ExceptT.run_bind, StateT.run_bind]
  rcases reader.run.run log with ⟨_ | _, _⟩ <;> rfl

theorem Comes.bind {reader : SettingReader α} {next : α → SettingReader β} {a : α} {result : Except Failure β}
    (first : Comes reader (.ok a)) (second : Comes (next a) result) : Comes (reader >>= next) result := by
  intro log
  obtain ⟨middle, ran⟩ := first log
  obtain ⟨log', ended⟩ := second middle
  refine ⟨log', ?_⟩
  rw [run_bind, ran]
  exact ended

theorem Comes.bind_error {reader : SettingReader α} {next : α → SettingReader β} {f : Failure}
    (first : Comes reader (.error f)) : Comes (reader >>= next) (.error f) := by
  intro log
  obtain ⟨middle, ran⟩ := first log
  exact ⟨middle, by rw [run_bind, ran]⟩

theorem Comes.guard {reader : SettingReader α} {next : α → SettingReader β} {fine : Bool} {a : α}
    {result : Except Failure β} {f : Failure} (first : Comes reader (if fine then .ok a else .error f))
    (second : Comes (next a) result) : Comes (reader >>= next) (if fine then result else .error f) := by
  cases fine with
  | true => exact first.bind second
  | false => exact first.bind_error

theorem Comes.guard_and {reader : SettingReader α} {next : α → SettingReader β} {fine others : Bool} {a : α}
    {result : Except Failure β} {f : Failure} (first : Comes reader (if fine then .ok a else .error f))
    (second : Comes (next a) (if others then result else .error f)) :
    Comes (reader >>= next) (if fine && others then result else .error f) := by
  have both := first.guard second
  cases fine <;> exact both

theorem Comes.of_refused (key : String) (expected : Expected) (v : Value) :
    Comes (orIgnored (.error (refused key expected v) : Except NarrowFault (Option α)))
      (if v.holdsLong then .error (.valueFault .tooLong) else .ok none) := by
  unfold refused
  split
  · exact .throw _
  · exact .bind (.note _) (.pure none)

theorem comes_narrowText (key : String) (v : Value) : Comes (orIgnored (v.narrowText key))
    (if v.holdsLong then .error (.valueFault .tooLong) else .ok v.text?) := by
  unfold Value.narrowText
  split
  · next absent =>
    rw [Value.eq_null absent]
    exact .pure none
  · split
    · next s text =>
      rw [Value.eq_text text]
      exact .pure (some s)
    · next other =>
      rw [other]
      exact Comes.of_refused _ _ _

theorem comes_narrowChoice (α : Type) [Choice α] (key : String) (v : Value) :
    Comes (orIgnored (v.narrowChoice α key))
      (if v.holdsLong then .error (.valueFault .tooLong) else .ok (v.text?.bind Choice.ofText?)) := by
  unfold Value.narrowChoice
  cases text : v.text? with
  | some s =>
    obtain rfl := Value.eq_text text
    have narrowed : (Value.text s).narrowText key = .ok (some s) := rfl
    rw [narrowed]
    simp only [Option.bind_some]
    cases own : (Choice.ofText? s : Option α) with
    | some choice => exact .pure (some choice)
    | none =>
      exact Comes.of_refused key (.oneOf ((Choice.all : List α).map Choice.text)) (.text s)
  | none =>
    cases absent : v.isNull with
    | true =>
      rw [Value.eq_null absent]
      exact .pure none
    | false =>
      have narrowed : v.narrowText key = .error (refused key .text v) := by
        simp [Value.narrowText, absent, text]
      rw [narrowed]
      exact Comes.of_refused _ _ _

theorem textOf_eq (flat : Flat) (key : String) : flat.textOf key = ((flat.lookup? key).getD .null).text? := by
  unfold Flat.textOf
  cases flat.lookup? key <;> rfl

/-- A reader that fails for a value that cannot be described fails for a setting that cannot be. -/
theorem Comes.of_described {reader : SettingReader α} {flat : Flat} {name : String} {result : Except Failure α}
    (comes : Comes reader (if ((flat.lookup? (Flat.overrideKey name)).getD .null).holdsLong
      then .error (.valueFault .tooLong) else result)) :
    Comes reader (if flat.describable name then result else .error (.valueFault .tooLong)) := by
  unfold Flat.describable
  cases long : ((flat.lookup? (Flat.overrideKey name)).getD .null).holdsLong <;> rw [long] at comes <;> exact comes

theorem comes_text (flat : Flat) (name : String) : Comes (text flat name)
    (if flat.describable name then .ok (flat.textOf (Flat.overrideKey name))
      else .error (.valueFault .tooLong)) := by
  rw [textOf_eq]
  exact .of_described (comes_narrowText _ _)

theorem comes_choice (α : Type) [Choice α] (flat : Flat) (name : String) : Comes (choice α flat name)
    (if flat.describable name then .ok ((flat.textOf (Flat.overrideKey name)).bind Choice.ofText?)
      else .error (.valueFault .tooLong)) := by
  rw [textOf_eq]
  exact .of_described (comes_narrowChoice α _ _)

theorem comes_compilerPath (flat : Flat) (context : Context) : Comes (compilerPath flat context)
    (if flat.describable "compilerPath" then
      .ok ((flat.textOf (Flat.overrideKey "compilerPath")).map (context.expand [] defaultPasses))
      else .error (.valueFault .tooLong)) := by
  refine .guard (comes_text flat "compilerPath") ?_
  cases flat.textOf (Flat.overrideKey "compilerPath") with
  | none => exact .pure none
  | some raw =>
    simp only [Option.map_some]
    split
    · exact .bind (.note _) (.pure _)
    · exact .pure _

theorem comes_filter (flat : Flat) : Comes (filter flat)
    (if flat.describable "filterCompilerArgs" then
      match flat.filterFailure? with
      | none => .ok (flat.textOf (Flat.overrideKey "filterCompilerArgs"))
      | some failure => .error failure
      else .error (.valueFault .tooLong)) := by
  refine .guard (comes_text flat "filterCompilerArgs") ?_
  unfold Flat.filterFailure?
  cases flat.textOf (Flat.overrideKey "filterCompilerArgs") with
  | none => exact .pure none
  | some raw =>
    simp only
    cases checkPattern raw with
    | ok => exact .pure (some raw)
    | error failure => exact .throw _

end SettingReader

/-- What a reading comes to: a setting that cannot be described makes it fail before the filter
pattern is looked at. -/
theorem readOverride_eq (flat : Flat) (context : Context) : (readOverride flat context).1 =
    if Flat.overrideNames.all flat.describable then
      match flat.filterFailure? with
      | none => .ok (flat.plainRecord context)
      | some failure => .error failure
    else .error (.valueFault .tooLong) := by
  have last : SettingReader.Comes
      (do
        let pattern ← SettingReader.filter flat
        return { flat.plainRecord context with filterCompilerArgs := pattern })
      (if flat.describable "filterCompilerArgs" then
        match flat.filterFailure? with
        | none => .ok (flat.plainRecord context)
        | some failure => .error failure
      else .error (.valueFault .tooLong)) := by
    have comes := SettingReader.comes_filter flat
    split
    · next fine =>
      rw [if_pos fine] at comes
      cases failing : flat.filterFailure? with
      | none =>
        rw [failing] at comes
        exact .bind comes (.pure _)
      | some failure =>
        rw [failing] at comes
        exact .bind_error comes
    · next long =>
      rw [if_neg long] at comes
      exact .bind_error comes
  have comes : SettingReader.Comes (SettingReader.record flat context) _ :=
    .bind (.note _) <| .guard_and (SettingReader.comes_choice _ flat "intelliSenseMode") <|
      .guard_and (SettingReader.comes_choice _ flat "cppStandard") <|
      .guard_and (SettingReader.comes_choice _ flat "cStandard") <|
      .guard_and (SettingReader.comes_compilerPath flat context) <| last
  obtain ⟨log, ran⟩ := comes []
  refine (congrArg Prod.fst ran).trans ?_
  simp only [Flat.overrideNames, List.all_cons, List.all_nil, Bool.and_true]

theorem readOverride_ok_iff {flat : Flat} {context : Context} {r : OverrideRecord} :
    (readOverride flat context).1 = .ok r ↔
      Flat.overrideNames.all flat.describable = true ∧ flat.filterFailure? = none ∧ r = flat.plainRecord context := by
  rw [readOverride_eq]
  cases Flat.overrideNames.all flat.describable with
  | false => simp
  | true => cases flat.filterFailure? <;> simp [eq_comm]

/-- A reading that fails for the settings fails for the filter pattern. -/
theorem filterFailure_of_reading {flat : Flat} {context : Context} {f : Failure}
    (failed : (readOverride flat context).1 = .error f) (expected : f.isOfSettings = true) :
    flat.filterFailure? = some f := by
  rw [readOverride_eq] at failed
  split at failed
  · split at failed
    · cases failed
    · next own =>
      cases failed
      exact own
  · cases failed
    cases expected

/-- A reading that fails for the settings has refused the filter pattern that stands there. -/
theorem badPattern_of_reading {flat : Flat} {context : Context} {f : Failure}
    (failed : (readOverride flat context).1 = .error f) (expected : f.isOfSettings = true) :
    ∃ raw fault position, flat.textOf (Flat.overrideKey "filterCompilerArgs") = some raw ∧
      checkPattern raw = .error (.invalid fault position) ∧ f = .badPattern raw fault position := by
  have own := filterFailure_of_reading failed expected
  unfold Flat.filterFailure? at own
  split at own
  · cases own
  · next raw text =>
    split at own
    · cases own
    · next failure wrong =>
      cases own
      cases failure with
      | invalid fault position => exact ⟨raw, fault, position, text, wrong, rfl⟩
      | repetitionTooLarge | tooManyDigits | incompatibleFlags | codeTooLarge | looksTooFar | tooDeep => cases expected

/-- Readings of settings that can be described, with a pattern that is in bounds, fail only for
the settings. -/
theorem isOfSettings_of_reading {flat : Flat} {context : Context} {f : Failure}
    (failed : (readOverride flat context).1 = .error f)
    (described : Flat.overrideNames.all flat.describable = true)
    (bounded : ∀ raw failure, flat.textOf (Flat.overrideKey "filterCompilerArgs") = some raw →
      checkPattern raw = .error failure → ∃ fault position, failure = .invalid fault position) :
    f.isOfSettings = true := by
  rw [readOverride_eq, if_pos described] at failed
  split at failed
  · cases failed
  · next own =>
    cases failed
    unfold Flat.filterFailure? at own
    split at own
    · cases own
    · next raw text =>
      split at own
      · cases own
      · next failure wrong =>
        cases own
        obtain ⟨fault, position, rfl⟩ := bounded raw failure text wrong
        rfl

end LayeredSettings

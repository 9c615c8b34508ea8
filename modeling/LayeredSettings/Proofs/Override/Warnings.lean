import Mathlib.Data.List.Forall2
import LayeredSettings.Proofs.Override.Reading

namespace LayeredSettings

namespace Flat

/-- The value that stands under a setting of the record, null if there is none. -/
def overrideValue (flat : Flat) (name : String) : Value := (flat.lookup? (overrideKey name)).getD .null

/-- A setting of the record has a value that is of no use: it is neither absent nor one of the texts that are
accepted. -/
def isUnfit (flat : Flat) (accepts : String → Bool) (name : String) : Bool :=
  !(flat.overrideValue name).isNull && !(flat.overrideValue name).text?.any accepts

end Flat

/-- Whether a text is one of those of a choice. -/
def Choice.accepts (α : Type) [Choice α] (s : String) : Bool := (Choice.all : List α).any fun c => Choice.text c = s

theorem Choice.isSome_ofText? (α : Type) [Choice α] (s : String) : (ofText? s : Option α).isSome = accepts α s := by
  rw [ofText?, List.isSome_find?, accepts]

/-- The settings of the record in the order in which they are read, with the texts that each accepts. -/
def OverrideRecord.settings : List (String × (String → Bool)) :=
  [("intelliSenseMode", Choice.accepts IntelliSenseMode), ("cppStandard", Choice.accepts CppStandard),
    ("cStandard", Choice.accepts CStandard), ("compilerPath", fun _ => true), ("filterCompilerArgs", fun _ => true)]

/-- The settings of the record that have a value of no use. -/
def Flat.unfitNames (flat : Flat) : List String :=
  (OverrideRecord.settings.filter fun setting => flat.isUnfit setting.2 setting.1).map Prod.fst

/-- The messages that warn. -/
def warnings (log : List LogMessage) : List LogMessage := log.filter fun message => message.level = .warn

theorem warnings_append (log log' : List LogMessage) : warnings (log ++ log') = warnings log ++ warnings log' :=
  List.filter_append ..

/-- A message warns that a setting of the record is ignored, and tells its key and its value. -/
def Flat.WarnsOf (flat : Flat) (message : LogMessage) (name : String) : Prop :=
  ∃ expected, message = ignoredMessage ⟨overrideKey name, expected, flat.overrideValue name⟩

namespace SettingReader

variable {α β : Type} {flat : Flat} {name : String}

theorem Comes.of_fine {reader : SettingReader α} {fine : Bool} {result other : Except Failure α}
    (comes : Comes reader (if fine then result else other)) (holds : fine = true) : Comes reader result := by
  rwa [if_pos holds] at comes

/-- A reader adds to the log, and warns of some settings, of one after the other. -/
def Warns (flat : Flat) (reader : SettingReader α) (names : List String) : Prop :=
  ∀ log, ∃ more, (reader.run.run log).2 = log ++ more ∧ List.Forall₂ flat.WarnsOf (warnings more) names

theorem Warns.silent {reader : SettingReader α} (quiet : ∀ log, (reader.run.run log).2 = log) :
    Warns flat reader [] :=
  fun log => ⟨[], by rw [quiet, List.append_nil], .nil⟩

theorem Warns.pure (a : α) : Warns flat (pure a) [] := .silent fun _ => rfl

theorem Warns.throw (f : Failure) : Warns flat (throw f : SettingReader α) [] := .silent fun _ => rfl

theorem Warns.note {message : LogMessage} (other : message.level ≠ .warn) : Warns flat (note message) [] :=
  fun _ => ⟨[message], rfl, by simp [warnings, other]⟩

theorem Warns.bind {reader : SettingReader α} {next : α → SettingReader β} {a : α} {names names' : List String}
    (comes : Comes reader (.ok a)) (first : Warns flat reader names) (later : Warns flat (next a) names') :
    Warns flat (reader >>= next) (names ++ names') := by
  intro log
  obtain ⟨middle, ran⟩ := comes log
  obtain ⟨more, grown, warned⟩ := first log
  obtain ⟨more', grown', warned'⟩ := later middle
  have between : middle = log ++ more := by rw [ran] at grown; exact grown
  have whole : ((reader >>= next).run.run log).2 = ((next a).run.run middle).2 := by rw [run_bind, ran]
  refine ⟨more ++ more', ?_, ?_⟩
  · rw [whole, grown', between, List.append_assoc]
  · rw [warnings_append]
    exact List.rel_append warned warned'

/-- What is done afterwards may be silent. -/
theorem Warns.before {reader : SettingReader α} {next : α → SettingReader β} {a : α} {names : List String}
    (comes : Comes reader (.ok a)) (first : Warns flat reader names) (later : Warns flat (next a) []) :
    Warns flat (reader >>= next) names := by
  have whole := first.bind comes later
  rwa [List.append_nil] at whole

/-- What is made of the answer of a reader does not matter, nor whether there is one. -/
theorem Warns.bind_pure {reader : SettingReader α} {names : List String} (warns : Warns flat reader names)
    (f : α → β) : Warns flat (do let a ← reader; return f a) names := by
  intro log
  obtain ⟨more, grown, warned⟩ := warns log
  refine ⟨more, ?_, warned⟩
  rw [← grown, run_bind]
  rcases reader.run.run log with ⟨_ | _, _⟩ <;> rfl

/-- What is refused is warned of, if it can be described. -/
theorem warns_refused (described : flat.describable name = true) (expected : Expected) :
    Warns flat (orIgnored (.error (refused (Flat.overrideKey name) expected (flat.overrideValue name)) :
      Except NarrowFault (Option α))) [name] := by
  have short : (flat.overrideValue name).holdsLong = false := by
    simpa [Flat.describable, Flat.overrideValue] using described
  intro log
  rw [refused, short]
  exact ⟨_, rfl, .cons ⟨expected, rfl⟩ .nil⟩

theorem warns_text (described : flat.describable name = true) :
    Warns flat (text flat name) (if flat.isUnfit (fun _ => true) name then [name] else []) := by
  have read : text flat name = orIgnored ((flat.overrideValue name).narrowText (Flat.overrideKey name)) := rfl
  have refuses := warns_refused (α := String) described .text
  rw [read, Flat.isUnfit, Value.narrowText]
  cases (flat.overrideValue name).isNull with
  | true => exact .pure none
  | false =>
    cases found : (flat.overrideValue name).text? with
    | some s => exact .pure (some s)
    | none => exact refuses

theorem warns_choice (α : Type) [Choice α] (described : flat.describable name = true) :
    Warns flat (choice α flat name) (if flat.isUnfit (Choice.accepts α) name then [name] else []) := by
  have read : choice α flat name =
      orIgnored ((flat.overrideValue name).narrowChoice α (Flat.overrideKey name)) := rfl
  rw [read, Flat.isUnfit, Value.narrowChoice, Value.narrowText]
  cases (flat.overrideValue name).isNull with
  | true => exact .pure none
  | false =>
    cases found : (flat.overrideValue name).text? with
    | none => exact warns_refused described .text
    | some s =>
      rw [Option.any_some, ← Choice.isSome_ofText?]
      cases own : (Choice.ofText? s : Option α) with
      | some member =>
        have silent : Warns flat (orIgnored (.ok (some member) : Except NarrowFault (Option α))) [] := .pure _
        simpa [own] using silent
      | none => simpa [own] using warns_refused described _

theorem warns_compilerPath (context : Context) (described : flat.describable "compilerPath" = true) :
    Warns flat (compilerPath flat context)
      (if flat.isUnfit (fun _ => true) "compilerPath" then ["compilerPath"] else []) := by
  unfold compilerPath
  refine .before ((comes_text flat "compilerPath").of_fine described) (warns_text described) ?_
  cases flat.textOf (Flat.overrideKey "compilerPath") with
  | none => exact .pure none
  | some raw =>
    simp only
    split
    · exact .before (.note _) (.note (by simp)) (.pure _)
    · exact .pure _

theorem warns_filter (described : flat.describable "filterCompilerArgs" = true) :
    Warns flat (filter flat) (if flat.isUnfit (fun _ => true) "filterCompilerArgs" then ["filterCompilerArgs"] else []) := by
  unfold filter
  refine .before ((comes_text flat "filterCompilerArgs").of_fine described) (warns_text described) ?_
  cases flat.textOf (Flat.overrideKey "filterCompilerArgs") with
  | none => exact .pure none
  | some raw =>
    simp only
    cases checkPattern raw with
    | ok => exact .pure (some raw)
    | error failure => exact .throw _

end SettingReader

/-- Where all settings of the record can be described, a reading warns of those that have a value of no use, and of
nothing else, be there a record in the end or not. -/
theorem warnings_readOverride {flat : Flat} (context : Context)
    (described : ∀ name ∈ Flat.overrideNames, flat.describable name = true) :
    List.Forall₂ flat.WarnsOf (warnings (readOverride flat context).2) flat.unfitNames := by
  obtain ⟨mode, cpp, c, path, pattern⟩ : flat.describable "intelliSenseMode" = true ∧
      flat.describable "cppStandard" = true ∧ flat.describable "cStandard" = true ∧
      flat.describable "compilerPath" = true ∧ flat.describable "filterCompilerArgs" = true := by
    simpa [Flat.overrideNames] using described
  have warns : SettingReader.Warns flat (SettingReader.record flat context) _ :=
    .bind (.note _) (.note (by simp)) <|
      .bind ((SettingReader.comes_choice _ flat _).of_fine mode) (SettingReader.warns_choice _ mode) <|
      .bind ((SettingReader.comes_choice _ flat _).of_fine cpp) (SettingReader.warns_choice _ cpp) <|
      .bind ((SettingReader.comes_choice _ flat _).of_fine c) (SettingReader.warns_choice _ c) <|
      .bind ((SettingReader.comes_compilerPath flat context).of_fine path)
        (SettingReader.warns_compilerPath context path) <|
      (SettingReader.warns_filter pattern).bind_pure _
  obtain ⟨more, grown, warned⟩ := warns []
  rw [List.nil_append] at warned
  have whole : (readOverride flat context).2 = more := grown
  rw [whole]
  have names : flat.unfitNames = OverrideRecord.settings.flatMap fun setting =>
      if flat.isUnfit setting.2 setting.1 then [setting.1] else [] := by
    rw [Flat.unfitNames]
    induction OverrideRecord.settings with
    | nil => rfl
    | cons setting rest ih => rw [List.filter_cons, List.flatMap_cons, ← ih]; split <;> rfl
  rw [names]
  simp only [OverrideRecord.settings, List.flatMap_cons, List.flatMap_nil, List.append_nil]
  exact warned

end LayeredSettings

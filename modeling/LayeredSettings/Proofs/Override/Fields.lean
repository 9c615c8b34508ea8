import Mathlib.Data.List.Nodup
import LayeredSettings.Proofs.Override.Warnings
import LayeredSettings.Proofs.Placeholder.Expansion

namespace LayeredSettings

/-- A choice whose list holds all its members, which have different texts. -/
class LawfulChoice (α : Type) [Choice α] : Prop where
  mem_all (c : α) : c ∈ Choice.all
  apart : ((Choice.all : List α).map Choice.text).Nodup

instance : LawfulChoice IntelliSenseMode where
  mem_all c := by cases c <;> decide
  apart := by decide

instance : LawfulChoice CppStandard where
  mem_all c := by cases c <;> decide
  apart := by decide

instance : LawfulChoice CStandard where
  mem_all c := by cases c <;> decide
  apart := by decide

section

variable {α : Type} [Choice α] [LawfulChoice α]

theorem Choice.text_injective {c d : α} (same : text c = text d) : c = d :=
  List.inj_on_of_nodup_map LawfulChoice.apart (LawfulChoice.mem_all c) (LawfulChoice.mem_all d) same

theorem Choice.ofText?_eq_some_iff {s : String} {c : α} : ofText? s = some c ↔ s = text c := by
  constructor
  · intro found
    have same := List.find?_some found
    simpa [eq_comm] using same
  · rintro rfl
    cases found : (ofText? (text c) : Option α) with
    | none => simpa using List.find?_eq_none.mp found c (LawfulChoice.mem_all c)
    | some d =>
      have same : text d = text c := by simpa using List.find?_some found
      rw [text_injective same]

theorem Flat.lookup?_eq_text_iff {flat : Flat} {key s : String} :
    flat.lookup? key = some (.text s) ↔ flat.textOf key = some s := by
  rw [textOf, Option.bind_eq_some_iff]
  constructor
  · exact fun found => ⟨_, found, rfl⟩
  · rintro ⟨v, found, text⟩
    rw [found, Value.eq_text text]

/-- The member of a choice that a setting names. -/
theorem Flat.choice_eq_some_iff (flat : Flat) (key : String) (c : α) :
    (flat.textOf key).bind Choice.ofText? = some c ↔ flat.lookup? key = some (.text (Choice.text c)) := by
  rw [lookup?_eq_text_iff, Option.bind_eq_some_iff]
  constructor
  · rintro ⟨s, given, own⟩
    rw [given, Choice.ofText?_eq_some_iff.mp own]
  · exact fun given => ⟨_, given, Choice.ofText?_eq_some_iff.mpr rfl⟩

end

namespace Flat

variable {flat flat' : Flat} {context : Context} {r r' : OverrideRecord}

/-- What a configuration with some settings is read as in a workspace. -/
def reading (flat : Flat) (context : Context) : Except Failure OverrideRecord × List LogMessage :=
  readOverride flat { context with settings := [flat] }

/-- The compiler of patterns takes the filter pattern or refuses it as a pattern. -/
def PatternJudged (flat : Flat) : Prop :=
  ∀ raw failure, flat.textOf (overrideKey "filterCompilerArgs") = some raw → checkPattern raw = .error failure →
    ∃ fault position, failure = .invalid fault position

/-- A record has in each field what its own setting says: the member of the choice whose text the setting is, the
compiler path expanded, and the filter pattern, which can be used. A setting that is anything else leaves its field
empty. -/
structure ReadAs (flat : Flat) (context : Context) (r : OverrideRecord) : Prop where
  mode : ∀ c, r.intelliSenseMode = some c ↔
    flat.lookup? (overrideKey "intelliSenseMode") = some (.text (Choice.text c))
  cpp : ∀ c, r.cppStandard = some c ↔ flat.lookup? (overrideKey "cppStandard") = some (.text (Choice.text c))
  c : ∀ c, r.cStandard = some c ↔ flat.lookup? (overrideKey "cStandard") = some (.text (Choice.text c))
  path : ({ context with settings := [flat] } : Context).resolve [] defaultPasses
    (flat.textOf (overrideKey "compilerPath")) = .ok r.compilerPath
  filter : r.filterCompilerArgs = flat.textOf (overrideKey "filterCompilerArgs")
  usable : ∀ raw, r.filterCompilerArgs = some raw → checkPattern raw = .ok ()

/-- Two records are the same in each field whose own settings are alike: they hold the same text, or none. For the
compiler path so are all settings that are referred to while it is expanded. -/
structure AlikeFields (context : Context) (flat flat' : Flat) (r r' : OverrideRecord) : Prop where
  mode : flat.textOf (overrideKey "intelliSenseMode") = flat'.textOf (overrideKey "intelliSenseMode") →
    r.intelliSenseMode = r'.intelliSenseMode
  cpp : flat.textOf (overrideKey "cppStandard") = flat'.textOf (overrideKey "cppStandard") →
    r.cppStandard = r'.cppStandard
  c : flat.textOf (overrideKey "cStandard") = flat'.textOf (overrideKey "cStandard") → r.cStandard = r'.cStandard
  path : flat.textOf (overrideKey "compilerPath") = flat'.textOf (overrideKey "compilerPath") →
    (∀ raw key, flat.textOf (overrideKey "compilerPath") = some raw →
      ({ context with settings := [flat] } : Context).Consults [] defaultPasses raw ⟨.setting, key⟩ →
      flat.textOf key = flat'.textOf key) →
    r.compilerPath = r'.compilerPath
  filter : flat.textOf (overrideKey "filterCompilerArgs") = flat'.textOf (overrideKey "filterCompilerArgs") →
    r.filterCompilerArgs = r'.filterCompilerArgs

theorem resolve_map_expand (context : Context) (template : Option String) :
    context.resolve [] defaultPasses template = .ok (template.map (context.expand [] defaultPasses)) := by
  cases template with
  | none => rfl
  | some template =>
    rw [Context.resolve]
    split
    · next empty => rw [empty, Option.map_some, Context.expand, if_pos rfl]
    · rfl

theorem exists_reading_eq_ok (described : overrideNames.all flat.describable = true) (fine : flat.filterFailure? = none) :
    ∃ r, (flat.reading context).1 = .ok r :=
  ⟨_, readOverride_ok_iff.mpr ⟨described, fine, rfl⟩⟩

theorem filterFailure?_eq_none_iff : flat.filterFailure? = none ↔
    ∀ raw, flat.textOf (overrideKey "filterCompilerArgs") = some raw → checkPattern raw = .ok () := by
  rw [filterFailure?]
  cases flat.textOf (overrideKey "filterCompilerArgs") with
  | none => simp
  | some raw => cases checked : checkPattern raw <;> simp [checked]

theorem readAs_of_ok (read : (flat.reading context).1 = .ok r) : flat.ReadAs context r := by
  obtain ⟨_, fine, rfl⟩ := readOverride_ok_iff.mp read
  refine ⟨flat.choice_eq_some_iff _, flat.choice_eq_some_iff _, flat.choice_eq_some_iff _,
    resolve_map_expand _ _, rfl, filterFailure?_eq_none_iff.mp fine⟩

/-- Settings of the record that can be described fail to be read just where the pattern is refused. -/
theorem reading_eq_error_iff (described : ∀ name ∈ overrideNames, flat.describable name = true)
    (judged : flat.PatternJudged) {f : Failure} : (flat.reading context).1 = .error f ↔
      ∃ raw fault position, flat.textOf (overrideKey "filterCompilerArgs") = some raw ∧
        checkPattern raw = .error (.invalid fault position) ∧ f = .badPattern raw fault position := by
  rw [reading, readOverride_eq, if_pos (List.all_eq_true.mpr described), filterFailure?]
  cases own : flat.textOf (overrideKey "filterCompilerArgs") with
  | none => simp
  | some raw =>
    cases checked : checkPattern raw with
    | ok => simp [checked]
    | error failure =>
      obtain ⟨fault, position, rfl⟩ := judged raw failure own checked
      simp [checked, Failure.ofPattern, eq_comm]

/-- A setting that cannot be described makes the reading fail, whatever the others are. -/
theorem reading_of_undescribable {name : String} (member : name ∈ overrideNames)
    (long : flat.describable name = false) : (flat.reading context).1 = .error (.valueFault .tooLong) := by
  have some : overrideNames.all flat.describable ≠ true := fun all => by
    rw [List.all_eq_true.mp all name member] at long
    cases long
  rw [reading, readOverride_eq, if_neg some]

/-- A template is expanded alike with settings that hold the same texts under all keys that are referred to. -/
theorem resolve_alike {template : String}
    (alike : ∀ key, ({ context with settings := [flat] } : Context).Consults [] defaultPasses template ⟨.setting, key⟩ →
      flat.textOf key = flat'.textOf key) :
    ({ context with settings := [flat] } : Context).resolve [] defaultPasses (some template) =
      ({ context with settings := [flat'] } : Context).resolve [] defaultPasses (some template) := by
  have passes : ({ context with settings := [flat] } : Context).passes? [] defaultPasses template =
      ({ context with settings := [flat'] } : Context).passes? [] defaultPasses template := by
    refine Context.passes?_of_consulted fun reference consulted whole => ?_
    obtain ⟨source, name⟩ := reference
    cases source with
    | environment | folder => rfl
    | setting =>
      simp only [Context.lookup?, Context.setting_of_single]
      exact alike name consulted
  exact Context.resolve_agree (by decide) passes rfl

/-- Settings that hold the same text under the key of a field, or none, are read as the same in that field. -/
theorem ReadAs.alike (read : flat.ReadAs context r) (read' : flat'.ReadAs context r') :
    AlikeFields context flat flat' r r' := by
  have choice {α : Type} [Choice α] {key : String} {own own' : Option α}
      (named : ∀ c, own = some c ↔ flat.lookup? key = some (.text (Choice.text c)))
      (named' : ∀ c, own' = some c ↔ flat'.lookup? key = some (.text (Choice.text c)))
      (same : flat.textOf key = flat'.textOf key) : own = own' :=
    Option.ext fun c => by rw [named, named', lookup?_eq_text_iff, lookup?_eq_text_iff, same]
  refine ⟨choice read.mode read'.mode, choice read.cpp read'.cpp, choice read.c read'.c, fun same alike => ?_,
    fun same => by rw [read.filter, read'.filter, same]⟩
  have path := read.path
  have path' := read'.path
  rw [← same] at path'
  cases given : flat.textOf (overrideKey "compilerPath") with
  | none =>
    rw [given] at path path'
    exact Except.ok.inj (path.symm.trans path')
  | some raw =>
    rw [given] at path path'
    rw [resolve_alike fun key consulted => alike raw key given consulted] at path
    exact Except.ok.inj (path.symm.trans path')

/-- Reading the record goes setting by setting, over settings of any shape. Where all settings of the record can be
described, it fails just for a filter pattern that is refused, with that pattern, and it warns of just the settings
that are there and of no use; a setting that holds a number too long to be written makes it fail. A record that is
read has in each field what its own setting says, and has it in common with any other record that is read, in this
workspace, from settings that are alike in that field. All this is on the assumption that the environment of the
workspace is a plain mapping, in which looking up a variable never fails. -/
theorem reading_fieldwise (context : Context) :
    (∀ flat : Flat, (∀ name ∈ overrideNames, flat.describable name = true) →
      (flat.PatternJudged → ∀ f, (flat.reading context).1 = .error f ↔
        ∃ raw fault position, flat.textOf (overrideKey "filterCompilerArgs") = some raw ∧
          checkPattern raw = .error (.invalid fault position) ∧ f = .badPattern raw fault position) ∧
      List.Forall₂ flat.WarnsOf (warnings (flat.reading context).2) flat.unfitNames) ∧
    (∀ flat : Flat, ∀ name ∈ overrideNames, flat.describable name = false →
      (flat.reading context).1 = .error (.valueFault .tooLong)) ∧
    (∀ (flat : Flat) (r : OverrideRecord), (flat.reading context).1 = .ok r → flat.ReadAs context r) ∧
    ∀ (flat flat' : Flat) (r r' : OverrideRecord), (flat.reading context).1 = .ok r →
      (flat'.reading context).1 = .ok r' → AlikeFields context flat flat' r r' := by
  refine ⟨fun flat described => ⟨fun judged f => ?_, ?_⟩, fun flat name member long => ?_, fun flat r read => ?_,
    fun flat flat' r r' read read' => ?_⟩
  · exact reading_eq_error_iff described judged
  · exact warnings_readOverride _ described
  · exact reading_of_undescribable member long
  · exact readAs_of_ok read
  · exact (readAs_of_ok read).alike (readAs_of_ok read')

end Flat

/-- A workspace with a home directory. -/
def Context.homely : Context := { environment := [("HOME", "/h")] }

namespace Flat

/-- Settings of the record of which one is of the wrong kind and one names no standard. -/
def mixed : Flat :=
  [("CMakeLite.override.intelliSenseMode", .text "gcc-x64"), ("CMakeLite.override.cppStandard", .text "c++99"),
    ("CMakeLite.override.cStandard", .scalar (.int 11)), ("tools", .text "$\x7benv:HOME\x7d/bin"),
    ("CMakeLite.override.compilerPath", .text "$\x7bconfig:tools\x7d/g++"),
    ("CMakeLite.override.filterCompilerArgs", .text "-W[a-z]+")]

/-- Other settings with the same compiler path. -/
def mixedOther : Flat :=
  [("CMakeLite.override.compilerPath", .text "$\x7bconfig:tools\x7d/g++"), ("CMakeLite.override.cStandard", .text "c99"),
    ("tools", .text "$\x7benv:HOME\x7d/bin")]

theorem filterFailure?_mixed : mixed.filterFailure? = none := by
  have own : mixed.textOf (overrideKey "filterCompilerArgs") = some "-W[a-z]+" := by decide
  have usable : (checkPattern "-W[a-z]+").toOption.isSome = true := by decide +kernel
  refine filterFailure?_eq_none_iff.mpr fun raw given => ?_
  rw [← Option.some.inj (own.symm.trans given)]
  cases checked : checkPattern "-W[a-z]+" with
  | ok => rfl
  | error failure => simp [checked, Except.toOption] at usable

/-- Both settings are warned of, the other fields are as their own settings say, and so is the compiler path in both
records. -/
theorem reading_fieldwise_mixed : (∀ name ∈ overrideNames, mixed.describable name = true) ∧ mixed.PatternJudged ∧
    List.Forall₂ mixed.WarnsOf (warnings (mixed.reading .homely).2) ["cppStandard", "cStandard"] ∧
    ∃ r r', (mixed.reading .homely).1 = .ok r ∧ (mixedOther.reading .homely).1 = .ok r' ∧
      mixed.ReadAs .homely r ∧ r.compilerPath = r'.compilerPath := by
  have all : overrideNames.all mixed.describable = true := by decide +kernel
  have described := List.all_eq_true.mp all
  have none : mixedOther.filterFailure? = none := by decide
  obtain ⟨r, read⟩ : ∃ r, (mixed.reading .homely).1 = .ok r := exists_reading_eq_ok all filterFailure?_mixed
  obtain ⟨r', read'⟩ : ∃ r', (mixedOther.reading .homely).1 = .ok r' := exists_reading_eq_ok (by decide) none
  have names : mixed.unfitNames = ["cppStandard", "cStandard"] := by decide
  have consulted : ∀ text ∈ ({ Context.homely with settings := [mixed] } : Context).passedOver [] defaultPasses
      "$\x7bconfig:tools\x7d/g++", ∀ placeholder ∈ findPlaceholders text,
        mixed.textOf placeholder.reference.name = mixedOther.textOf placeholder.reference.name := by
    decide +kernel
  obtain ⟨reads, _, as, alike⟩ := reading_fieldwise Context.homely
  obtain ⟨_, warned⟩ := reads mixed described
  refine ⟨described, ?_, by rwa [← names], r, r', read, read', as mixed r read, ?_⟩
  · intro raw failure given refused
    simp [filterFailure?_eq_none_iff.mp filterFailure?_mixed raw given] at refused
  · refine (alike mixed mixedOther _ _ read read').path (by decide) fun raw key given => ?_
    have same : mixed.textOf (overrideKey "compilerPath") = some "$\x7bconfig:tools\x7d/g++" := by decide
    rw [Option.some.inj (same.symm.trans given).symm]
    rintro ⟨text, passed, placeholder, found, refers⟩
    have here := consulted text passed placeholder found
    rwa [refers] at here

/-- Settings with a number that is too long to be written. -/
def lengthy : Flat := [("CMakeLite.override.cStandard", .scalar (.int (10 ^ digitLimit)))]

/-- Though there is no filter pattern, reading fails. -/
theorem reading_fieldwise_lengthy : lengthy.PatternJudged ∧ lengthy.textOf (overrideKey "filterCompilerArgs") = none ∧
    (lengthy.reading .homely).1 = .error (.valueFault .tooLong) := by
  have none : lengthy.textOf (overrideKey "filterCompilerArgs") = none := by decide
  have long : lengthy.describable "cStandard" = false := by decide +kernel
  have member : "cStandard" ∈ overrideNames := by decide
  have judged : lengthy.PatternJudged := by
    intro raw failure given
    rw [none] at given
    cases given
  exact ⟨judged, none, reading_of_undescribable member long⟩

end Flat

end LayeredSettings

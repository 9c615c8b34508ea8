import Mathlib.Data.List.TakeWhile
import LayeredSettings.Command.Run
import LayeredSettings.Proofs.Placeholder.Agreement
import LayeredSettings.Proofs.Placeholder.Spelling
import LayeredSettings.Proofs.Placeholder.Stability

namespace LayeredSettings

/-- A name and a value as they are given to a command. -/
def assigned (assignment : String × String) : String := assignment.1 ++ "=" ++ assignment.2

theorem namedValue?_eq_none_iff {item : String} : namedValue? item = none ↔ '=' ∉ item.toList := by
  have apart : item.toList.dropWhile (· ≠ '=') = [] ↔ '=' ∉ item.toList := by
    rw [List.dropWhile_eq_nil_iff]
    simp only [decide_eq_true_eq]
    exact ⟨fun all member => all _ member rfl, fun free c member same => free (same ▸ member)⟩
  rw [namedValue?, ← apart]
  split <;> simp_all

theorem eq_assigned_of_namedValue? {item : String} {assignment : String × String}
    (named : namedValue? item = some assignment) : item = assigned assignment ∧ '=' ∉ assignment.1.toList := by
  rw [namedValue?] at named
  split at named
  · cases named
  · next first value behind =>
    cases named
    have sign : first = '=' := by
      have head := List.head?_dropWhile_not (fun c => decide (c ≠ '=')) item.toList
      rw [behind] at head
      simpa using head
    subst sign
    refine ⟨?_, fun member => ?_⟩
    · refine String.toList_inj.mp ?_
      calc item.toList
        _ = item.toList.takeWhile (· ≠ '=') ++ '=' :: value := by rw [← behind, List.takeWhile_append_dropWhile]
        _ = _ := by simp [assigned]
    · rw [String.toList_ofList] at member
      simpa using List.mem_takeWhile_imp member

/-- The values that are given to a name, in their order. -/
def valuesOf (assignments : List (String × String)) (name : String) : List String :=
  (assignments.filter (·.1 = name)).map Prod.snd

/-- What is kept of the values of a name: nothing, the only one, or the list of them all. -/
def gathered : List String → Option EnvOverride
  | [] => none
  | [value] => some (.text value)
  | values => some (.texts values)

theorem eq_of_gathered {values texts : List String} (listed : gathered values = some (.texts texts)) :
    values = texts := by
  rcases values with _ | ⟨first, _ | ⟨second, others⟩⟩ <;> simp_all [gathered]

/-- Overrides keep for every name the values that are given to it. -/
structure Gathers (overrides : Entries String EnvOverride) (assignments : List (String × String)) : Prop where
  apart : overrides.keys.Nodup
  kept : ∀ name, overrides.get? name = gathered (valuesOf assignments name)

namespace Gathers

variable {overrides : Entries String EnvOverride} {assignments : List (String × String)}

theorem empty : Gathers [] [] := ⟨List.nodup_nil, fun _ => rfl⟩

/-- One more value comes behind those that its name has, and leaves other names alone. -/
theorem add (gathers : Gathers overrides assignments) (assignment : String × String) :
    Gathers (addOverride overrides assignment.1 assignment.2) (assignments ++ [assignment]) where
  apart := Entries.nodup_put gathers.apart _ _
  kept name := by
    have before := gathers.kept assignment.1
    rw [addOverride, Entries.get?_put, valuesOf, List.filter_append, List.map_append, ← valuesOf]
    by_cases own : name = assignment.1
    · subst own
      rw [if_pos rfl, before]
      -- The three states of a name: not given yet, a single text, a list.
      rcases valuesOf assignments assignment.1 with _ | ⟨first, _ | ⟨second, others⟩⟩ <;> simp [gathered]
    · rw [if_neg own, gathers.kept]
      simp [Ne.symm own]

theorem mem_keys_iff (gathers : Gathers overrides assignments) {name : String} :
    name ∈ overrides.keys ↔ name ∈ assignments.map Prod.fst := by
  have given : valuesOf assignments name = [] ↔ name ∉ assignments.map Prod.fst := by
    simp only [valuesOf, List.map_eq_nil_iff, List.filter_eq_nil_iff, decide_eq_true_eq, List.mem_map, not_exists, not_and]
  have stays : (∃ value, gathered (valuesOf assignments name) = some value) ↔ valuesOf assignments name ≠ [] := by
    rcases valuesOf assignments name with _ | ⟨first, _ | ⟨second, others⟩⟩ <;> simp [gathered]
  rw [Entries.mem_keys_iff, gathers.kept, stays, ne_eq, given, not_not]

end Gathers

variable {overrides all : Entries String EnvOverride} {before : List (String × String)} {items : List String}

/-- Items are collected one after the other, each on top of those before it. -/
theorem gathers_collectOverrides (gathers : Gathers overrides before) (collected : collectOverrides overrides items = .ok all) :
    ∃ assignments, items = assignments.map assigned ∧ (∀ assignment ∈ assignments, '=' ∉ assignment.1.toList) ∧
      Gathers all (before ++ assignments) := by
  induction items generalizing overrides before with
  | nil =>
    cases collected
    exact ⟨[], rfl, by simp, by simpa using gathers⟩
  | cons item rest ih =>
    rw [collectOverrides] at collected
    split at collected
    · cases collected
    · next name value named =>
      obtain ⟨written, free⟩ := eq_assigned_of_namedValue? named
      obtain ⟨assignments, others, frees, result⟩ := ih (gathers.add (name, value)) collected
      refine ⟨(name, value) :: assignments, by rw [List.map_cons, ← written, others], ?_, by simpa using result⟩
      exact List.forall_mem_cons.mpr ⟨free, frees⟩

/-- Collecting fails with the first item that has no equals sign. -/
theorem collectOverrides_eq_error_iff {item : String} : collectOverrides overrides items = .error item ↔
    items.find? (fun item => '=' ∉ item.toList) = some item := by
  induction items generalizing overrides with
  | nil => simp [collectOverrides]
  | cons first rest ih =>
    rw [collectOverrides, List.find?_cons]
    cases named : namedValue? first with
    | none => simp [namedValue?_eq_none_iff.mp named]
    | some assignment =>
      have sign : ¬ '=' ∉ first.toList := by simp [← namedValue?_eq_none_iff, named]
      simpa [sign] using ih

/-- The command ends with an error if one of the items has no equals sign, and else there are overrides. -/
theorem envOverrides_eq_error_iff {failed : CommandResult} : envOverrides items = .error failed ↔
    ∃ item, items.find? (fun item => '=' ∉ item.toList) = some item ∧ failed =
      { exitCode := 1, diagnostics := CommandContext.diagnostic (shownMarkup
        ("Invalid --env value '" ++ escapeMarkup item ++ "': expected NAME=VALUE")) } := by
  have first (item : String) :
      collectOverrides [] items = .error item ↔ items.find? (fun item => '=' ∉ item.toList) = some item :=
    collectOverrides_eq_error_iff
  simp only [← first, envOverrides]
  cases collectOverrides [] items with
  | ok all => simp
  | error item => simp [eq_comm]

theorem gathers_envOverrides (read : envOverrides items = .ok all) :
    ∃ assignments, items = assignments.map assigned ∧ (∀ assignment ∈ assignments, '=' ∉ assignment.1.toList) ∧
      Gathers all assignments := by
  refine gathers_collectOverrides .empty (?_ : collectOverrides [] items = .ok all)
  rw [envOverrides] at read
  split at read
  · next collected => rwa [← Except.ok.inj read]
  · cases read

/-- What stands in texts that are joined by semicolons stands in one of them, or is a semicolon. -/
theorem mem_joined {c : Char} {texts : List String} (member : c ∈ (";".intercalate texts).toList) :
    c = ';' ∨ ∃ text ∈ texts, c ∈ text.toList := by
  rw [String.toList_intercalate] at member
  induction texts with
  | nil => simp [List.intercalate] at member
  | cons first rest ih =>
    cases rest with
    | nil => exact .inr ⟨first, List.mem_singleton_self first, by simpa [List.intercalate] using member⟩
    | cons second others =>
      have parts : c ∈ first.toList ∨ c = ';' ∨ c ∈ ";".toList.intercalate ((second :: others).map String.toList) := by
        simpa [List.intercalate] using member
      rcases parts with own | mark | later
      · exact .inr ⟨first, List.mem_cons_self .., own⟩
      · exact .inl mark
      · rcases ih later with mark | ⟨text, among, own⟩
        · exact .inl mark
        · exact .inr ⟨text, List.mem_cons_of_mem _ among, own⟩

/-- Joined texts begin as the first of them does, or with a semicolon. -/
theorem head?_joined (first second : String) (others : List String) :
    (";".intercalate (first :: second :: others)).toList.head? = some (first.toList.head?.getD ';') := by
  rw [String.toList_intercalate]
  cases begins : first.toList with
  | nil => simp [List.intercalate, begins]
  | cons c rest => simp [List.intercalate, begins]

/-- A text without dollar signs has no placeholders. -/
theorem findPlaceholders_of_free {text : String} (free : '$' ∉ text.toList) : findPlaceholders text = [] := by
  refine List.eq_nil_iff_forall_not_mem.mpr fun placeholder found => free ?_
  obtain ⟨_, body, written, _⟩ := (lists_findPlaceholders text).written placeholder found
  have dollar : '$' ∈ text.toList.extract placeholder.start placeholder.stop := by simp [written.slice]
  exact List.mem_of_mem_drop (List.mem_of_mem_take dollar)

/-- A placeholder for a name of the environment that is all of a template, however the name is written. -/
theorem findPlaceholders_variable {name : String} (inside : IsBody name.toList) :
    findPlaceholders (enclosed ("env:" ++ name)) =
      [⟨0, (enclosed ("env:" ++ name)).length, ⟨.environment, name⟩⟩] := by
  have body : IsBody ("env:" ++ name).toList := by
    rw [String.toList_append]
    exact isBody_append.mpr ⟨by simp [IsBody], inside⟩
  have refers : RefersTo ("env:" ++ name).toList ⟨.environment, name⟩ :=
    .tagged (String.toList_append ..) (.inr (.inl rfl))
  rw [findPlaceholders_enclosed body, refersTo_iff.mp refers]

namespace Gathers

variable {overrides : Entries String EnvOverride} {assignments : List (String × String)} {name : String} {limit : Int}

/-- The values of a name that has several are inserted where its placeholder is all of the template. -/
theorem resolve_several (gathers : Gathers overrides assignments) (context : Context) (positive : 1 ≤ limit)
    (inside : IsBody name.toList) (several : 2 ≤ (valuesOf assignments name).length)
    (free : ∀ value ∈ valuesOf assignments name, '$' ∉ value.toList)
    (other : ∀ first ∈ (valuesOf assignments name).head?, first.toList.head? ≠ some '~') :
    context.resolve overrides limit (some (enclosed ("env:" ++ name))) =
      .ok (some (";".intercalate (valuesOf assignments name))) := by
  have kept := gathers.kept name
  generalize valuesOf assignments name = values at *
  rcases values with _ | ⟨first, _ | ⟨second, others⟩⟩
  · simp at several
  · simp at several
  have held : context.lookup? overrides true ⟨.environment, name⟩ =
      some (";".intercalate (first :: second :: others)) := by
    simp only [Context.lookup?, Context.environmentValue?, kept, gathered]
  have plain : '$' ∉ (";".intercalate (first :: second :: others)).toList := by
    intro member
    rcases mem_joined member with mark | ⟨value, among, own⟩
    · cases mark
    · exact free value among own
  have begins : (";".intercalate (first :: second :: others)).toList.head? ≠ some '~' := by
    have own := other first rfl
    rw [head?_joined]
    cases start : first.toList.head? with
    | none => simp
    | some c => simpa [start] using own
  rw [context.resolve_of_whole positive (findPlaceholders_variable inside) held (findPlaceholders_of_free plain),
    Context.expandHome_of_head? begins]

end Gathers

/-- Items for variables are refused just if one of them has no equals sign: the command ends with an error and
writes nothing for the next program. Else each of them gives the value behind its first equals sign to the name in
front of it, and the overrides keep for every name that is given, and for no other, its only value or the list of
all its values in the order of the items. A list is inserted, joined by semicolons, where the placeholder of the
name is all of the template. -/
theorem overrides_collected (items : List String) :
    ((∃ failed, envOverrides items = .error failed) ↔ ∃ item ∈ items, '=' ∉ item.toList) ∧
    (∀ failed, envOverrides items = .error failed → failed.exitCode = 1 ∧ failed.output = "") ∧
    ∀ overrides, envOverrides items = .ok overrides → ∃ assignments : List (String × String),
      items = assignments.map assigned ∧ (∀ assignment ∈ assignments, '=' ∉ assignment.1.toList) ∧
      overrides.keys.Nodup ∧ (∀ name, name ∈ overrides.keys ↔ name ∈ assignments.map Prod.fst) ∧
      (∀ name, overrides.get? name = gathered (valuesOf assignments name)) ∧
      ∀ (context : Context) (limit : Int) (name : String), 1 ≤ limit → '}' ∉ name.toList → '\n' ∉ name.toList →
        2 ≤ (valuesOf assignments name).length → (∀ value ∈ valuesOf assignments name, '$' ∉ value.toList) →
        (∀ first ∈ (valuesOf assignments name).head?, first.toList.head? ≠ some '~') →
        context.resolve overrides limit (some (enclosed ("env:" ++ name))) =
          .ok (some (";".intercalate (valuesOf assignments name))) := by
  refine ⟨?_, fun failed refused => ?_, fun overrides read => ?_⟩
  · simp only [envOverrides_eq_error_iff]
    constructor
    · rintro ⟨_, item, found, _⟩
      exact ⟨item, List.mem_of_find?_eq_some found, by simpa using List.find?_some found⟩
    · rintro ⟨item, member, bare⟩
      have some : (items.find? fun item => '=' ∉ item.toList).isSome := by
        rw [List.find?_isSome]
        exact ⟨item, member, by simpa using bare⟩
      obtain ⟨first, found⟩ := Option.isSome_iff_exists.mp some
      exact ⟨_, first, found, rfl⟩
  · obtain ⟨item, _, rfl⟩ := envOverrides_eq_error_iff.mp refused
    exact ⟨rfl, rfl⟩
  · obtain ⟨assignments, written, free, gathers⟩ := gathers_envOverrides read
    refine ⟨assignments, written, free, gathers.apart, fun name => gathers.mem_keys_iff, gathers.kept, ?_⟩
    exact fun context limit name positive brace line several dollars tilde =>
      gathers.resolve_several context positive ⟨brace, line⟩ several dollars tilde

/-- Items that give two names in turn: an empty value, a value with an equals sign, a name that comes once. -/
def mixedItems : List String := ["A=", "B=x", "A=p=q", "C=$", "A=~"]

/-- The values of the name that comes several times are joined, with the empty one in front. -/
theorem overrides_collected_mixed :
    envOverrides mixedItems = .ok [("A", .texts ["", "p=q", "~"]), ("B", .text "x"), ("C", .text "$")] ∧
    Context.resolve {} [("A", .texts ["", "p=q", "~"]), ("B", .text "x"), ("C", .text "$")] 3
      (some "$\x7benv:A\x7d") = .ok (some ";p=q;~") := by
  have read : envOverrides mixedItems =
      .ok [("A", .texts ["", "p=q", "~"]), ("B", .text "x"), ("C", .text "$")] := by rfl
  obtain ⟨assignments, written, free, _, _, kept, resolves⟩ := (overrides_collected mixedItems).2.2 _ read
  have values : valuesOf assignments "A" = ["", "p=q", "~"] := eq_of_gathered (kept "A").symm
  have joined := resolves {} 3 "A" (by decide) (by decide) (by decide) (by rw [values]; decide)
    (by rw [values]; decide) (by rw [values]; decide)
  rw [values] at joined
  exact ⟨read, joined⟩

end LayeredSettings

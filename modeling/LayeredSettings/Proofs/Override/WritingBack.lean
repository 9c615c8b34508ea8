import Mathlib.Logic.Relation
import LayeredSettings.Proofs.Override.Fields
import LayeredSettings.Proofs.Placeholder.Stability
import LayeredSettings.Proofs.Store.Writing

namespace LayeredSettings

namespace Context

variable {context : Context} {overrides : Entries String EnvOverride} {text : String}

theorem passOver_of_free (template : String) (free : '$' ∉ text.toList) :
    context.passOver overrides template text = text := by
  have passed := context.pass_append overrides template.toList free []
  have none : context.pass overrides template.toList [] = [] := by simp [pass, pieces]
  rw [none, List.append_nil] at passed
  rw [passOver, passed, String.ofList_toList]

/-- A text in which there is nothing to expand is its own expansion. -/
theorem expand_of_free (limit : Nat) (free : '$' ∉ text.toList) (other : text.toList.head? ≠ some '~') :
    context.expand overrides limit text = text := by
  have steady : ∀ last ∈ context.passes overrides limit text, last = text := by
    intro last member
    rw [passes_eq_orbit] at member
    exact orbit_of_fixed (passOver_of_free text free) member
  have ends : (context.passes overrides limit text).getLast?.getD text = text := by
    cases found : (context.passes overrides limit text).getLast? with
    | none => rfl
    | some last => exact steady last (List.mem_of_getLast? found)
  rw [expand, ends, expandHome_of_head? other, ite_self]

end Context

theorem Choice.accepts_text {α : Type} [Choice α] [LawfulChoice α] (c : α) : accepts α (text c) = true := by
  rw [← isSome_ofText?, ofText?_eq_some_iff.mpr rfl, Option.isSome_some]

namespace OverrideRecord

/-- The fields of a record as the entries of a mapping: one that overrides nothing is null. -/
def entries (r : OverrideRecord) : List (Scalar × Value) :=
  r.fields.map fun field => (.text field.1, field.2.elim .null .text)

/-- A record as a settings file holds it. -/
def document (r : OverrideRecord) : List (Scalar × Value) :=
  [(.text "CMakeLite", .map [(.text "override", .map r.entries)])]

/-- The same under dotted keys. -/
def dotted (r : OverrideRecord) : List (Scalar × Value) :=
  r.entries.map fun entry => (.text (overrideSection ++ "." ++ entry.1.keyText), entry.2)

/-- The settings that a record amounts to. -/
def written (r : OverrideRecord) : Flat :=
  r.fields.filterMap fun field => field.2.map fun s => (Flat.overrideKey field.1, .text s)

variable {r : OverrideRecord}

theorem respelled_dotted (r : OverrideRecord) : Relation.ReflTransGen Respelled r.document r.dotted := by
  refine .tail (.single (.dots [] "CMakeLite" [(.text "override", .map r.entries)] [])) ?_
  have second := Respelled.dots [] "CMakeLite.override" r.entries []
  rwa [List.append_nil] at second

theorem map_fst_fields (r : OverrideRecord) : r.fields.map Prod.fst = Flat.overrideNames := rfl

theorem mem_overrideNames {field : String × Option String} (member : field ∈ r.fields) :
    field.1 ∈ Flat.overrideNames :=
  r.map_fst_fields ▸ List.mem_map_of_mem member

theorem spelled_document (r : OverrideRecord) : Spelled (· ≠ "") r.document := by
  have fields : Spelled (· ≠ "") (Flat.document (r.fields.map fun field => (field.1, field.2.elim .null .text))) := by
    refine .of_leaves fun entry member => ?_
    obtain ⟨⟨name, value⟩, own, rfl⟩ := List.mem_map.mp member
    have named : ∀ name ∈ Flat.overrideNames, name ≠ "" := by decide
    exact ⟨named name (mem_overrideNames own), by cases value <;> rfl⟩
  rw [Flat.document, List.map_map] at fields
  exact .inner (by decide) (.inner (by decide) fields .nil) .nil

theorem mem_written_iff {key : String} {value : Value} : (key, value) ∈ r.written ↔
    ∃ field ∈ r.fields, ∃ s, field.2 = some s ∧ key = Flat.overrideKey field.1 ∧ value = .text s := by
  simp only [written, List.mem_filterMap, Option.map_eq_some_iff, Prod.mk.injEq]
  grind

theorem nodup_written (r : OverrideRecord) : (Entries.keys r.written).Nodup := by
  have keys (fields : List (String × Option String)) :
      List.Sublist ((fields.filterMap fun field => field.2.map fun s => (Flat.overrideKey field.1, Value.text s)).map
        Prod.fst) (fields.map fun field => Flat.overrideKey field.1) := by
    induction fields with
    | nil => exact .slnil
    | cons field rest ih =>
      obtain ⟨name, _ | s⟩ := field
      · exact .cons _ ih
      · exact .cons_cons _ ih
  have apart : (Flat.overrideNames.map Flat.overrideKey).Nodup := by decide
  exact apart.sublist (keys r.fields)

theorem flattenOnto_fields (outer : String) (named : outer ≠ "") (fields : List (String × Option String)) (flat : Flat) :
    flattenOnto outer flat (fields.map fun field => (.text field.1, field.2.elim .null .text)) =
      flat.merge (fields.filterMap fun field => field.2.map fun s => (outer ++ "." ++ field.1, .text s)) := by
  induction fields generalizing flat with
  | nil => simp only [List.map_nil, flattenOnto, List.filterMap_nil, Entries.merge, List.foldl_nil]
  | cons field rest ih =>
    obtain ⟨name, _ | s⟩ := field
    · exact (flattenOnto_null ..).trans (ih flat)
    · have here : flattenEntry (joinKey outer (.text name)) (.text s) = [(outer ++ "." ++ name, .text s)] := by
        simp [flattenEntry, joinKey, named, Scalar.keyText]
      have later := ih (flat.merge [(outer ++ "." ++ name, .text s)])
      rw [← Entries.merge_append] at later
      simp only [List.map_cons, Option.elim_some, flattenOnto, here]
      exact later

/-- However a record is written, it is taken apart into its settings. -/
theorem flatten_respelled {data : List (Scalar × Value)} (respelled : Relation.ReflTransGen Respelled r.document data) :
    Spelled (· ≠ "") data ∧ flatten "" data = r.written := by
  induction respelled with
  | refl =>
    refine ⟨r.spelled_document, ?_⟩
    have merged := flattenOnto_fields overrideSection (by decide) r.fields []
    have apart : (Entries.keys ([] ++ r.written)).Nodup := r.nodup_written
    rw [flatten, document, flattenOnto_map, flattenOnto_map]
    simp only [flattenOnto]
    exact merged.trans (Entries.merge_of_apart apart)
  | tail _ step ih =>
    obtain ⟨spelled, same⟩ := step.flattenOnto_eq ih.1
    exact ⟨spelled, (same "" []).trans ih.2⟩

/-- The settings in force where there is but one layer with a record. -/
theorem effective_respelled {data : List (Scalar × Value)} (respelled : Relation.ReflTransGen Respelled r.document data)
    (layer : Layer) : (Layers.empty.replace [(layer, data)]).effective = r.written := by
  have alone : Entries.merge [] r.written = r.written := Entries.merge_of_apart r.nodup_written
  have more (flat : Flat) : Entries.merge flat [] = flat := rfl
  have taken := (flatten_respelled respelled).2
  cases layer <;>
    simp only [Layers.replace, Layers.effective, Layer.all, List.foldl_cons, List.foldl_nil, Layers.set, Layers.get,
      Layers.empty, taken, alone, more]

/-- Nothing stands inside a setting of a record. -/
theorem inSection_written {name : String} (listed : name ∈ Flat.overrideNames) :
    r.written.inSection (Flat.overrideKey name) = [] := by
  have beside : ∀ name ∈ Flat.overrideNames, ∀ other ∈ Flat.overrideNames,
      below? (Flat.overrideKey name) (Flat.overrideKey other) = none := by decide
  refine List.filterMap_eq_nil_iff.mpr fun entry there => ?_
  obtain ⟨field, own, s, _, key, _⟩ := mem_written_iff.mp there
  rw [key, beside name listed field.1 (mem_overrideNames own), Option.map_none]

theorem get?_written {name : String} {value : Option String} (member : (name, value) ∈ r.fields) :
    Entries.get? r.written (Flat.overrideKey name) = value.map .text := by
  cases value with
  | some s => exact Entries.get?_of_mem r.nodup_written (mem_written_iff.mpr ⟨_, member, s, rfl, rfl, rfl⟩)
  | none =>
    refine Entries.get?_of_not_mem fun there => ?_
    obtain ⟨⟨key, v⟩, inside, rfl⟩ := List.mem_map.mp there
    obtain ⟨field, own, s, given, same, _⟩ := mem_written_iff.mp inside
    have injective : ∀ name ∈ Flat.overrideNames, ∀ other ∈ Flat.overrideNames,
        Flat.overrideKey name = Flat.overrideKey other → name = other := by decide
    have name := injective name (mem_overrideNames member) field.1 (mem_overrideNames own) same
    have apart : (r.fields.map Prod.fst).Nodup := r.map_fst_fields ▸ (by decide : Flat.overrideNames.Nodup)
    rw [← List.inj_on_of_nodup_map apart member own name] at given
    cases given

/-- A field that overrides something is the setting of its name, and for the others there is none. -/
theorem lookup?_written {name : String} {value : Option String} (member : (name, value) ∈ r.fields) :
    r.written.lookup? (Flat.overrideKey name) = value.map .text := by
  have listed := mem_overrideNames member
  rw [Flat.lookup?, get?_written member]
  cases value with
  | some s => rfl
  | none =>
    have named : ∀ name ∈ Flat.overrideNames, Flat.overrideKey name ≠ "" := by decide
    simp only [Option.map_none, if_neg (named name listed), inSection_written listed]
    rfl

theorem textOf_written {name : String} {value : Option String} (member : (name, value) ∈ r.fields) :
    r.written.textOf (Flat.overrideKey name) = value := by
  rw [Flat.textOf, lookup?_written member]
  cases value <;> rfl

theorem describable_written {name : String} {value : Option String} (member : (name, value) ∈ r.fields) :
    r.written.describable name = true := by
  rw [Flat.describable, lookup?_written member]
  cases value <;> rfl

/-- No setting of a record is of no use if its text is accepted. -/
theorem isUnfit_written {name : String} {value : Option String} (member : (name, value) ∈ r.fields)
    {accepts : String → Bool} (accepted : ∀ s, value = some s → accepts s = true) :
    r.written.isUnfit accepts name = false := by
  rw [Flat.isUnfit, Flat.overrideValue, lookup?_written member]
  cases value with
  | none => rfl
  | some s => simp [Value.text?, accepted s rfl]

/-- The settings of a record are all of use. -/
theorem unfitNames_written (r : OverrideRecord) : r.written.unfitNames = [] := by
  have own {α : Type} [Choice α] [LawfulChoice α] (c : Option α) (s : String) (given : c.map Choice.text = some s) :
      Choice.accepts α s = true := by
    obtain ⟨c, _, rfl⟩ := Option.map_eq_some_iff.mp given
    exact Choice.accepts_text c
  have fits : ∀ setting ∈ settings, r.written.isUnfit setting.2 setting.1 = false := by
    simp only [settings, List.forall_mem_cons]
    exact ⟨isUnfit_written (.head _) (own _), isUnfit_written (.tail _ (.head _)) (own _),
      isUnfit_written (.tail _ (.tail _ (.head _))) (own _),
      isUnfit_written (.tail _ (.tail _ (.tail _ (.head _)))) fun _ _ => rfl,
      isUnfit_written (.tail _ (.tail _ (.tail _ (.tail _ (.head _))))) fun _ _ => rfl, List.forall_mem_nil _⟩
  rw [Flat.unfitNames, List.filter_eq_nil_iff.mpr fun setting member => by simp [fits setting member], List.map_nil]

/-- The settings of a record are read as that record, unless there is something in its compiler path to expand. -/
theorem plainRecord_written (context : Context)
    (plain : ∀ path, r.compilerPath = some path → '$' ∉ path.toList ∧ path.toList.head? ≠ some '~') :
    r.written.plainRecord context = r := by
  have own {α : Type} [Choice α] [LawfulChoice α] (c : Option α) : (c.map Choice.text).bind Choice.ofText? = c := by
    cases c with
    | none => rfl
    | some c => exact Choice.ofText?_eq_some_iff.mpr rfl
  have path : r.compilerPath.map (context.expand [] defaultPasses) = r.compilerPath := by
    cases given : r.compilerPath with
    | none => rfl
    | some path =>
      obtain ⟨free, other⟩ := plain path given
      rw [Option.map_some, Context.expand_of_free _ free other]
  rw [Flat.plainRecord, textOf_written (.head _), textOf_written (.tail _ (.head _)),
    textOf_written (.tail _ (.tail _ (.head _))), textOf_written (.tail _ (.tail _ (.tail _ (.head _)))),
    textOf_written (.tail _ (.tail _ (.tail _ (.tail _ (.head _))))), own, own, own, path]

/-- A record survives being written back. Let one be read from any settings, with a compiler path in which there is
nothing to expand. As the only layer of a workspace, nested, under dotted keys or in any way between, with its nulls
or without them, it can be put in force, and the same record is read from it without a warning. -/
theorem reading_written_back {flat : Flat} {context : Context} {r : OverrideRecord}
    (read : (readOverride flat context).1 = .ok r)
    (plain : ∀ path, r.compilerPath = some path → '$' ∉ path.toList ∧ path.toList.head? ≠ some '~')
    {data : List (Scalar × Value)} (respelled : Relation.ReflTransGen Respelled r.document data) (layer : Layer)
    (context' : Context) : entriesFault? data = none ∧
      ∃ log, (Layers.empty.replace [(layer, data)]).effective.reading context' = (.ok r, log) ∧ warnings log = [] := by
  have described : ∀ name ∈ Flat.overrideNames, r.written.describable name = true := by
    rw [← r.map_fst_fields]
    rintro _ member
    obtain ⟨field, own, rfl⟩ := List.mem_map.mp member
    exact describable_written own
  have usable : r.written.filterFailure? = none := by
    obtain ⟨_, fine, rfl⟩ := readOverride_ok_iff.mp read
    rw [Flat.filterFailure?, textOf_written (.tail _ (.tail _ (.tail _ (.tail _ (.head _)))))]
    exact fine
  have again : (r.written.reading context').1 = .ok r :=
    readOverride_ok_iff.mpr ⟨List.all_eq_true.mpr described, usable, (plainRecord_written _ plain).symm⟩
  have silent := warnings_readOverride { context' with settings := [r.written] } described
  rw [r.unfitNames_written, List.forall₂_nil_right_iff] at silent
  refine ⟨(flatten_respelled respelled).1.entriesFault?_eq_none, _, ?_, silent⟩
  rw [effective_respelled respelled layer, ← again]
  rfl

/-- The record of some settings, one of them with a compiler path that is expanded. -/
def recovered : OverrideRecord where
  intelliSenseMode := some .gccX64
  compilerPath := some "/h/bin/g++"
  filterCompilerArgs := some "-W[a-z]+"

/-- Written back under dotted keys it is the same in a workspace without a home directory. -/
theorem reading_written_back_recovered :
    (readOverride Flat.mixed { Context.homely with settings := [Flat.mixed] }).1 = .ok recovered ∧
    (∀ path, recovered.compilerPath = some path → '$' ∉ path.toList ∧ path.toList.head? ≠ some '~') ∧
    Relation.ReflTransGen Respelled recovered.document recovered.dotted ∧
    ∃ log, (Layers.empty.replace [(.project, recovered.dotted)]).effective.reading {} = (.ok recovered, log) ∧
      warnings log = [] := by
  have read : (readOverride Flat.mixed { Context.homely with settings := [Flat.mixed] }).1 = .ok recovered :=
    readOverride_ok_iff.mpr ⟨by decide +kernel, Flat.filterFailure?_mixed, by decide +kernel⟩
  have plain : ∀ path, recovered.compilerPath = some path → '$' ∉ path.toList ∧ path.toList.head? ≠ some '~' := by
    rintro _ ⟨⟩
    decide
  have respelled := recovered.respelled_dotted
  exact ⟨read, plain, respelled, (reading_written_back read plain respelled .project {}).2⟩

end OverrideRecord

end LayeredSettings

import LayeredSettings.Editor.Project
import LayeredSettings.Proofs.Placeholder.Agreement
import LayeredSettings.Proofs.Placeholder.Expansion
import LayeredSettings.Proofs.Placeholder.Stability
import LayeredSettings.Proofs.Store.Layers

namespace LayeredSettings

namespace Flat

variable {own settings layer : Flat} {key : String} {v : Value}

/-- A document holds the settings of a layer: the same keys, and the same texts under them. -/
def Mirrors (own layer : Flat) : Prop :=
  ∀ key, (Entries.get? own key).map Value.text? = (Entries.get? layer key).map Value.text?

theorem mirrors_of_map (same : own.map (fun entry => (entry.1, entry.2.text?)) =
    layer.map fun entry => (entry.1, entry.2.text?)) : own.Mirrors layer := by
  intro key
  rw [← Entries.get?_map, ← Entries.get?_map, same]

/-- A section of a document hides a text that lower layers hold under its name. -/
structure Hides (own settings : Flat) (key : String) : Prop where
  unset : Entries.get? own key = none
  named : (own.lookup? key).isSome = true
  text : ∃ s, Entries.get? settings key = some (.text s)

/-- Nothing is hidden where the text under each key stands in the document as well or names no section there. -/
theorem not_hides_of_all (all : (settings.all fun entry =>
    (Entries.get? own entry.1).isSome || (own.lookup? entry.1).isNone) = true) : ¬ own.Hides settings key := by
  rintro ⟨unset, named, s, found⟩
  have here := List.all_eq_true.mp all _ (Entries.mem_of_get? found)
  rw [unset] at here
  cases absent : own.lookup? key with
  | none => simp [absent] at named
  | some v => simp [absent] at here

theorem lookup?_of_get? (held : Entries.get? own key = some v) : own.lookup? key = some v := by
  rw [lookup?, held]

/-- Settings over others give the texts of those where they hold the same texts themselves, and none of their
sections hides one. -/
theorem text_over_iff
    (covered : ∀ key v, Entries.get? own key = some v →
      ∃ w, Entries.get? settings key = some w ∧ v.text? = w.text?) :
    ((own.lookup? key).or (settings.lookup? key)).bind Value.text? = settings.textOf key ↔
      ¬ own.Hides settings key := by
  cases held : Entries.get? own key with
  | some v =>
    obtain ⟨w, found, same⟩ := covered key v held
    have shown : ¬ own.Hides settings key := fun hides => by simpa [held] using hides.unset
    rw [lookup?_of_get? held, textOf, lookup?_of_get? found]
    exact iff_of_true same shown
  | none =>
    cases named : own.lookup? key with
    | none =>
      have shown : ¬ own.Hides settings key := fun hides => by simpa [named] using hides.named
      exact iff_of_true rfl shown
    | some v =>
      -- What a document holds under the key is a section, and no text.
      have inner : v.text? = none := by
        have none := textOf_eq_get own key
        rwa [textOf, named, held] at none
      rw [Option.some_or, Option.bind_some, inner]
      constructor
      · rintro none ⟨_, _, s, found⟩
        rw [textOf_eq_some_iff.mpr found] at none
        cases none
      · intro shown
        cases text : settings.textOf key with
        | none => rfl
        | some s => exact absurd ⟨held, by rw [named]; rfl, s, textOf_eq_some_iff.mp text⟩ shown

end Flat

namespace Project

variable {project : Project} {load : Loader} {text : String} {own : Flat}

/-- What placeholders refer to in a document with settings of its own. -/
def contextOver (project : Project) (own : Flat) : Context :=
  { project.context with settings := [own, project.settings] }

theorem documentContext_eq (holds : documentSettings load text = .ok own) :
    project.documentContext load text = .ok (project.contextOver own) := by
  rw [documentContext, holds]
  rfl

theorem get?_settings (tidy : project.layers.Tidy) (unset : project.layers.memory = []) {key : String} {v : Value}
    (held : Entries.get? project.layers.project key = some v) : Entries.get? project.settings key = some v := by
  have memory : Entries.get? (project.layers.get .memory) key = none := by
    rw [Layers.get, unset]
    rfl
  have layer : Entries.get? (project.layers.get .project) key = some v := held
  have highest : project.layers.highest? key = some v := by
    simp [Layers.highest?, Layer.all, memory, layer]
  exact (tidy.get?_effective key).trans highest

theorem text_contextOver (name : String) :
    ((project.contextOver own).setting? name).bind Value.text? =
      ((own.lookup? name).or (project.settings.lookup? name)).bind Value.text? := by
  simp only [contextOver, Context.setting?, List.findSome?_cons, List.findSome?_nil]
  cases own.lookup? name with
  | some v => rfl
  | none => cases project.settings.lookup? name <;> rfl

theorem text_context (name : String) :
    (project.context.setting? name).bind Value.text? = project.settings.textOf name :=
  Context.setting_of_single project.context project.settings name

/-- A setting has the same value in a document as in the project exactly where the document does not hide it. -/
theorem setting_contextOver_iff (tidy : project.layers.Tidy) (unset : project.layers.memory = [])
    (mirrors : own.Mirrors project.layers.project) (key : String) (overrides : Entries String EnvOverride)
    (whole : Bool) :
    (project.contextOver own).lookup? overrides whole ⟨.setting, key⟩ =
      project.context.lookup? overrides whole ⟨.setting, key⟩ ↔ ¬ own.Hides project.settings key := by
  have covered (key : String) (v : Value) (held : Entries.get? own key = some v) :
      ∃ w, Entries.get? project.settings key = some w ∧ v.text? = w.text? := by
    have alike := mirrors key
    rw [held, Option.map_some] at alike
    obtain ⟨w, found, same⟩ := Option.map_eq_some_iff.mp alike.symm
    exact ⟨w, get?_settings tidy unset found, same.symm⟩
  rw [← Flat.text_over_iff covered, ← text_contextOver, ← text_context]
  rfl

/-- A reference has the same value in a document as in the project, unless it is to a setting that the document
hides. -/
theorem lookup?_contextOver (tidy : project.layers.Tidy) (unset : project.layers.memory = [])
    (mirrors : own.Mirrors project.layers.project) {reference : Reference}
    (shown : reference.source = .setting → ¬ own.Hides project.settings reference.name)
    (overrides : Entries String EnvOverride) (whole : Bool) :
    (project.contextOver own).lookup? overrides whole reference =
      project.context.lookup? overrides whole reference := by
  obtain ⟨source, name⟩ := reference
  cases source with
  | environment | folder => rfl
  | setting => exact (setting_contextOver_iff tidy unset mirrors name overrides whole).mpr (shown rfl)

/-- A template that does not consult a setting that the document hides is resolved as in the project. -/
theorem resolve_contextOver (tidy : project.layers.Tidy) (unset : project.layers.memory = [])
    (mirrors : own.Mirrors project.layers.project) {overrides : Entries String EnvOverride} {limit : Int}
    {template : String} (positive : 1 ≤ limit)
    (shown : ∀ key, project.context.Consults overrides limit template ⟨.setting, key⟩ →
      ¬ own.Hides project.settings key) :
    (project.contextOver own).resolve overrides limit (some template) =
      project.context.resolve overrides limit (some template) := by
  have same : project.context.passes? overrides limit template =
      (project.contextOver own).passes? overrides limit template := by
    refine Context.passes?_of_consulted fun reference consulted whole => ?_
    refine (lookup?_contextOver tidy unset mirrors (fun source => shown _ ?_) overrides whole).symm
    rwa [← source]
  have home : project.context.home? = (project.contextOver own).home? := rfl
  exact (Context.resolve_agree positive same home).symm

/-- The keys of all settings are offered in a document. -/
theorem mem_documentKeys {keys : List String} (holds : documentSettings load text = .ok own)
    (offered : project.documentKeys load text = .ok keys) {key : String} :
    key ∈ keys ↔ key ∈ Entries.keys own ∨ key ∈ Entries.keys project.settings := by
  rw [documentKeys, holds] at offered
  cases offered
  simp [sortedNames]

/-- In a document that holds the settings of the project layer every template is resolved as in the project, where no
setting is set at run time. Each setting that is a text is offered there, its placeholder gives that text in the
first pass, and resolving stops there unless the text refers to something else. Both are true up to the settings of
lower layers that a section of the document hides, which are exactly those with another value there. -/
theorem document_resolves (tidy : project.layers.Tidy) (unset : project.layers.memory = [])
    (holds : documentSettings load text = .ok own) (mirrors : own.Mirrors project.layers.project) :
    ∃ context keys, project.documentContext load text = .ok context ∧ project.documentKeys load text = .ok keys ∧
      (∀ key overrides whole, context.lookup? overrides whole ⟨.setting, key⟩ =
        project.context.lookup? overrides whole ⟨.setting, key⟩ ↔ ¬ own.Hides project.settings key) ∧
      (∀ overrides limit template, 1 ≤ limit →
        (∀ key, project.context.Consults overrides limit template ⟨.setting, key⟩ → ¬ own.Hides project.settings key) →
        context.resolve overrides limit (some template) = project.context.resolve overrides limit (some template)) ∧
      ∀ key s, project.settings.lookup? key = some (.text s) → key ∈ keys ∧
        (¬ own.Hides project.settings key → ∀ overrides limit, 1 ≤ limit →
          (∀ whole, context.lookup? overrides whole ⟨.setting, key⟩ = some s) ∧
          (IsBody key.toList →
            (∃ more, context.passes? overrides limit (Reference.template ⟨.setting, key⟩) = .ok (s :: more)) ∧
            (findPlaceholders s = [] → s.toList.head? ≠ some '~' →
              context.resolve overrides limit (some (Reference.template ⟨.setting, key⟩)) = .ok (some s)))) := by
  obtain ⟨keys, offered⟩ : ∃ keys, project.documentKeys load text = .ok keys := by
    rw [documentKeys, holds]
    exact ⟨_, rfl⟩
  refine ⟨_, keys, documentContext_eq holds, offered, setting_contextOver_iff tidy unset mirrors, ?_, ?_⟩
  · exact fun overrides limit template positive shown => resolve_contextOver tidy unset mirrors positive shown
  · intro key s inForce
    have given : project.settings.textOf key = some s := by
      rw [Flat.textOf, inForce]
      rfl
    have stands := Entries.mem_keys_iff.mpr ⟨_, Flat.textOf_eq_some_iff.mp given⟩
    refine ⟨(mem_documentKeys holds offered).mpr (.inr stands), ?_⟩
    intro shown overrides limit positive
    have gives (whole : Bool) : (project.contextOver own).lookup? overrides whole ⟨.setting, key⟩ = some s := by
      rw [lookup?_contextOver tidy unset mirrors (fun _ => shown) overrides whole]
      exact (text_context key).trans given
    refine ⟨gives, fun inside => ?_⟩
    have alone := @findPlaceholders_template ⟨.setting, key⟩ inside
    obtain ⟨more, yields, _⟩ := (project.contextOver own).passes?_of_whole positive alone (gives true)
    refine ⟨⟨more, yields⟩, fun plain other => ?_⟩
    rw [(project.contextOver own).resolve_of_whole positive alone (gives true) plain,
      Context.expandHome_of_head? other]

end Project

/-- A project with settings of one user and of its own. -/
def layeredProject (user data : List (Scalar × Value)) : Project where
  layers := Layers.empty.replace [(.user, user), (.project, data)]

theorem tidy_layeredProject (user data : List (Scalar × Value)) : (layeredProject user data).layers.Tidy :=
  Layers.tidy_empty.replace _

/-- The settings that a text holds, none if it cannot be read. -/
def settingsIn (text : String) : Flat := (Project.documentSettings loadYaml text).toOption.getD []

/-- A project whose own setting refers to one of the user in the same section. -/
def besideProject : Project :=
  layeredProject [(.text "a.b", .text "low")] [(.text "a", .map [(.text "c", .text "$\x7bconfig:a.b\x7d")])]

/-- The document of the project's own setting. -/
def besideText : String := "a:\n  c: $\x7bconfig:a.b\x7d\n"

/-- Both settings are resolved in the document. -/
theorem document_resolves_beside : besideProject.layers.Tidy ∧ besideProject.layers.memory = [] ∧
    ∃ own context, Project.documentSettings loadYaml besideText = .ok own ∧ own.Mirrors besideProject.layers.project ∧
      besideProject.documentContext loadYaml besideText = .ok context ∧
      context.resolve [] 4 (some "$\x7bconfig:a.c\x7d") = .ok (some "low") ∧
      ∃ keys, besideProject.documentKeys loadYaml besideText = .ok keys ∧ "a.b" ∈ keys ∧
        context.resolve [] 4 (some (Reference.template ⟨.setting, "a.b"⟩)) = .ok (some "low") := by
  have tidy : besideProject.layers.Tidy := tidy_layeredProject _ _
  have holds : Project.documentSettings loadYaml besideText = .ok (settingsIn besideText) :=
    eq_ok_of_isSome _ [] (by decide +kernel)
  have mirrors : (settingsIn besideText).Mirrors besideProject.layers.project :=
    Flat.mirrors_of_map (by decide +kernel)
  have shown (key : String) : ¬ (settingsIn besideText).Hides besideProject.settings key :=
    Flat.not_hides_of_all (by decide +kernel)
  have computed : besideProject.context.resolve [] 4 (some "$\x7bconfig:a.c\x7d") =
      .ok (some (besideProject.context.expand [] 4 "$\x7bconfig:a.c\x7d")) := rfl
  have value : besideProject.context.expand [] 4 "$\x7bconfig:a.c\x7d" = "low" := by decide +kernel
  have inForce : besideProject.settings.lookup? "a.b" = some (.text "low") :=
    Flat.lookup?_of_get? rfl
  obtain ⟨context, keys, opened, listed, _, same, offered⟩ :=
    Project.document_resolves tidy rfl holds mirrors
  obtain ⟨there, gives⟩ := offered "a.b" "low" inForce
  obtain ⟨_, alone⟩ := gives (shown "a.b") [] 4 (by decide)
  rw [value] at computed
  exact ⟨tidy, rfl, _, context, holds, mirrors, opened, (same [] 4 _ (by decide) fun key _ => shown key).trans computed,
    keys, listed, there, (alone ⟨by decide, by decide⟩).2 (by decide +kernel) (by decide)⟩

/-- A project with a setting of the user that is a section of the project itself. -/
def hidingProject : Project :=
  layeredProject [(.text "a", .text "x")] [(.text "a", .map [(.text "b", .text "y")])]

/-- The document of that section. -/
def hidingText : String := "a:\n  b: y\n"

/-- The setting of the user is in force and is offered in the document, where it is not resolved. -/
theorem document_resolves_hidden : hidingProject.layers.Tidy ∧ hidingProject.layers.memory = [] ∧
    ∃ own context keys, Project.documentSettings loadYaml hidingText = .ok own ∧
      own.Mirrors hidingProject.layers.project ∧ hidingProject.documentContext loadYaml hidingText = .ok context ∧
      hidingProject.documentKeys loadYaml hidingText = .ok keys ∧
      "a" ∈ keys ∧ context.resolve [] 4 (some "$\x7bconfig:a\x7d") = .ok (some "$\x7bconfig:a\x7d") ∧
      hidingProject.context.resolve [] 4 (some "$\x7bconfig:a\x7d") = .ok (some "x") := by
  have holds : Project.documentSettings loadYaml hidingText = .ok (settingsIn hidingText) :=
    eq_ok_of_isSome _ [] (by decide +kernel)
  have mirrors : (settingsIn hidingText).Mirrors hidingProject.layers.project := Flat.mirrors_of_map (by decide +kernel)
  have kept : (hidingProject.contextOver (settingsIn hidingText)).expand [] 4 "$\x7bconfig:a\x7d" =
      "$\x7bconfig:a\x7d" := by decide +kernel
  have value : hidingProject.context.expand [] 4 "$\x7bconfig:a\x7d" = "x" := by decide +kernel
  have resolved (context : Context) : context.resolve [] 4 (some "$\x7bconfig:a\x7d") =
      .ok (some (context.expand [] 4 "$\x7bconfig:a\x7d")) := rfl
  obtain ⟨keys, listed⟩ : ∃ keys, hidingProject.documentKeys loadYaml hidingText = .ok keys := by
    rw [Project.documentKeys, holds]
    exact ⟨_, rfl⟩
  refine ⟨tidy_layeredProject _ _, rfl, _, _, keys, holds, mirrors, Project.documentContext_eq holds, listed, ?_, ?_, ?_⟩
  · exact (Project.mem_documentKeys holds listed).mpr (.inr (by decide +kernel))
  · rw [resolved, kept]
  · rw [resolved, value]

end LayeredSettings

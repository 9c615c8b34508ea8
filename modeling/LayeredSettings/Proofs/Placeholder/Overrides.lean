import LayeredSettings.Proofs.Placeholder.Stability

namespace LayeredSettings

/-- Texts as overrides. -/
def textOverrides (texts : Entries String String) : Entries String EnvOverride :=
  texts.map fun entry => (entry.1, .text entry.2)

namespace Context

variable (context : Context) {overrides : Entries String EnvOverride} {texts : Entries String String}
  {limit : Int}

/-- A context with texts written over its environment. -/
def overlaid (texts : Entries String String) : Context :=
  { context with environment := context.environment.merge texts }

theorem environmentValue?_overlaid (apart : texts.keys.Nodup) (whole : Bool) (name : String) :
    context.environmentValue? (textOverrides texts) whole name =
      (context.overlaid texts).environmentValue? [] whole name := by
  have written : (context.environment.merge texts).get? name =
      (texts.get? name).or (context.environment.get? name) := Entries.get?_merge _ apart name
  have bare : (context.overlaid texts).environmentValue? [] whole name =
      (context.environment.merge texts).get? name := rfl
  rw [bare, written]
  unfold environmentValue?
  rw [textOverrides, Entries.get?_map]
  cases texts.get? name <;> rfl

theorem lookup?_overlaid (apart : texts.keys.Nodup) (whole : Bool) (reference : Reference) :
    context.lookup? (textOverrides texts) whole reference = (context.overlaid texts).lookup? [] whole reference := by
  unfold lookup?
  cases reference.source with
  | environment => exact context.environmentValue?_overlaid apart whole reference.name
  | setting | folder => rfl

theorem passes?_overlaid (apart : texts.keys.Nodup) (limit : Int) (template : String) :
    context.passes? (textOverrides texts) limit template = (context.overlaid texts).passes? [] limit template := by
  refine passes?_agree fun text _ => passOver_agree fun placeholder _ => ?_
  exact context.lookup?_overlaid apart _ placeholder.reference

/-- Texts among which there is none for the home directory leave it as it is. -/
theorem home?_overlaid (apart : texts.keys.Nodup) (foreign : homeVariable context.platform ∉ texts.keys) :
    (context.overlaid texts).home? = context.home? := by
  have unset : texts.get? (homeVariable context.platform) = none := by
    cases found : texts.get? (homeVariable context.platform) with
    | none => rfl
    | some home => exact absurd (Entries.mem_keys_iff.mpr ⟨home, found⟩) foreign
  have written := Entries.get?_merge context.environment apart (homeVariable context.platform)
  rw [unset, Option.none_or] at written
  rw [home?, home?, ← written]
  rfl

theorem expandHome_tilde (rest : String) : context.expandHome ("~" ++ rest) = context.home?.getD "~" ++ rest := by
  have begins : ("~" ++ rest).toList = '~' :: rest.toList := by simp
  unfold expandHome
  rw [begins]
  cases context.home? <;> simp

/-- Overrides that are all texts act as if they were written over the environment: passes yield the same texts, and
the same comes out in the end, unless the overrides name the home directory and it is put in. What is put in is the
home directory of the environment, whatever the overrides are. -/
theorem resolve_overlaid (apart : texts.keys.Nodup) (positive : 1 ≤ limit) (template : String) :
    ∃ passed last, context.passes? (textOverrides texts) limit template = .ok passed ∧
      (context.overlaid texts).passes? [] limit template = .ok passed ∧ passed.getLast? = some last ∧
      (homeVariable context.platform ∉ texts.keys ∨ last.toList.head? ≠ some '~' →
        context.resolve (textOverrides texts) limit (some template) =
          (context.overlaid texts).resolve [] limit (some template)) ∧
      ∀ rest, last = "~" ++ rest → context.resolve (textOverrides texts) limit (some template) =
        .ok (some (context.home?.getD "~" ++ rest)) := by
  have same := context.passes?_overlaid apart limit template
  obtain ⟨passed, last, yields, ends, resolved⟩ := context.exists_last (textOverrides texts) positive template
  obtain ⟨passed', last', yields', ends', resolved'⟩ := (context.overlaid texts).exists_last [] positive template
  cases yields'.symm.trans (same.symm.trans yields)
  cases ends'.symm.trans ends
  refine ⟨passed, last, yields, yields', ends, fun unlike => ?_, fun rest tilde => ?_⟩
  · rcases unlike with foreign | other
    · exact resolve_agree positive same (context.home?_overlaid apart foreign).symm
    · rw [resolved, resolved', expandHome_of_head? other, expandHome_of_head? other]
  · rw [resolved, tilde, expandHome_tilde]

end Context

/-- An environment with a home directory and a variable that refers to it. -/
def settled : Context where
  environment := [("HOME", "/home/me"), ("CC", "$\x7bHOME\x7d/cc")]

/-- An override of the home directory is inserted for its placeholder and not for a tilde. -/
theorem resolve_overlaid_settled : (Entries.keys [("HOME", "/tmp"), ("SRC", "~/src")]).Nodup ∧ (1 : Int) ≤ 4 ∧
    settled.passes? (textOverrides [("HOME", "/tmp"), ("SRC", "~/src")]) 4 "$\x7bCC\x7d" =
      .ok ["$\x7bHOME\x7d/cc", "/tmp/cc", "/tmp/cc"] ∧
    settled.resolve (textOverrides [("HOME", "/tmp"), ("SRC", "~/src")]) 4 (some "$\x7bCC\x7d") =
      (settled.overlaid [("HOME", "/tmp"), ("SRC", "~/src")]).resolve [] 4 (some "$\x7bCC\x7d") ∧
    settled.resolve (textOverrides [("HOME", "/tmp"), ("SRC", "~/src")]) 4 (some "$\x7bSRC\x7d") =
      .ok (some "/home/me/src") := by
  have apart : (Entries.keys [("HOME", "/tmp"), ("SRC", "~/src")]).Nodup := by decide
  have yields (template : String) : settled.passes? (textOverrides [("HOME", "/tmp"), ("SRC", "~/src")]) 4 template =
      .ok (settled.passes (textOverrides [("HOME", "/tmp"), ("SRC", "~/src")]) 4 template) := rfl
  have named : settled.passes (textOverrides [("HOME", "/tmp"), ("SRC", "~/src")]) 4 "$\x7bCC\x7d" =
      ["$\x7bHOME\x7d/cc", "/tmp/cc", "/tmp/cc"] := by decide +kernel
  have tilde : settled.passes (textOverrides [("HOME", "/tmp"), ("SRC", "~/src")]) 4 "$\x7bSRC\x7d" =
      ["~/src", "~/src"] := by decide +kernel
  obtain ⟨passed, last, first, _, ends, same, _⟩ :=
    settled.resolve_overlaid apart (by decide : (1 : Int) ≤ 4) "$\x7bCC\x7d"
  cases (yields _).symm.trans first
  rw [named] at ends
  cases ends
  obtain ⟨passed', last', first', _, ends', _, own⟩ :=
    settled.resolve_overlaid apart (by decide : (1 : Int) ≤ 4) "$\x7bSRC\x7d"
  cases (yields _).symm.trans first'
  rw [tilde] at ends'
  cases ends'
  have home : settled.home?.getD "~" ++ "/src" = "/home/me/src" := by decide +kernel
  have put := own "/src" (by decide)
  rw [home] at put
  exact ⟨apart, by decide, (yields _).trans (congrArg _ named), same (.inr (by decide)), put⟩

/-- A template that is written as a placeholder in some text is that one placeholder. -/
theorem findPlaceholders_of_slice {text template : String} {placeholder : Placeholder}
    (found : placeholder ∈ findPlaceholders text) (whole : placeholder.slice text.toList = template.toList) :
    findPlaceholders template = [⟨0, template.length, placeholder.reference⟩] := by
  obtain ⟨_, body, written, refers⟩ := (lists_findPlaceholders text).written placeholder found
  have same : template = String.ofList ('$' :: '{' :: body ++ ['}']) := by
    rw [← String.ofList_toList (s := template), ← whole]
    exact congrArg String.ofList written.slice
  have length : template.length = body.length + 3 := by
    rw [same, ← String.length_toList, String.toList_ofList]
    simp
  rw [length, refersTo_iff.mp refers, same, findPlaceholders_of_body written.inside]

namespace Context

variable (context : Context) {overrides : Entries String EnvOverride} {name : String} {limit : Int}

/-- An override that is no text counts for its own name only, and only where the placeholder is the whole
template. -/
theorem environmentValue?_erase (listed : ∀ s, overrides.get? name ≠ some (.text s)) {whole : Bool} {other : String}
    (part : other = name → whole = false) :
    context.environmentValue? overrides whole other = context.environmentValue? (overrides.erase name) whole other := by
  unfold environmentValue?
  rw [Entries.get?_erase]
  by_cases own : other = name
  · have inside := part own
    subst own inside
    rw [if_pos rfl]
    cases found : overrides.get? other with
    | none => rfl
    | some value =>
      cases value with
      | text s => exact absurd found (listed s)
      | texts | other => rfl
  · rw [if_neg own]

theorem lookup?_erase (listed : ∀ s, overrides.get? name ≠ some (.text s)) {whole : Bool} {reference : Reference}
    (part : reference = ⟨.environment, name⟩ → whole = false) :
    context.lookup? overrides whole reference = context.lookup? (overrides.erase name) whole reference := by
  obtain ⟨source, other⟩ := reference
  cases source with
  | environment => exact context.environmentValue?_erase listed fun own => part (own ▸ rfl)
  | setting | folder => rfl

/-- An override that is no text makes no difference to a template that is not just the placeholder of its name:
without it the same texts are yielded, and the same comes out. To that placeholder it gives the texts of a list,
joined by semicolons. -/
theorem resolve_erase (listed : ∀ s, overrides.get? name ≠ some (.text s)) (positive : 1 ≤ limit) (template : String) :
    (findPlaceholders template ≠ [⟨0, template.length, ⟨.environment, name⟩⟩] →
      ∃ passed, context.passes? overrides limit template = .ok passed ∧
        context.passes? (overrides.erase name) limit template = .ok passed ∧
        context.resolve overrides limit (some template) =
          context.resolve (overrides.erase name) limit (some template)) ∧
      ∀ items, overrides.get? name = some (.texts items) →
        findPlaceholders template = [⟨0, template.length, ⟨.environment, name⟩⟩] →
        ∃ more, context.passes? overrides limit template = .ok (";".intercalate items :: more) := by
  refine ⟨fun larger => ?_, fun items held whole => ?_⟩
  · have same : context.passes? overrides limit template = context.passes? (overrides.erase name) limit template := by
      refine passes?_agree fun text _ => passOver_agree fun placeholder found => ?_
      refine context.lookup?_erase listed fun own => decide_eq_false fun whole => larger ?_
      rw [← own]
      exact findPlaceholders_of_slice found whole
    have yields := context.passes?_eq overrides template positive
    exact ⟨_, yields, same.symm.trans yields, resolve_agree positive same rfl⟩
  · have joined : context.environmentValue? overrides true name = some (";".intercalate items) := by
      unfold environmentValue?
      rw [held]
    obtain ⟨more, yields, _⟩ := context.passes?_of_whole positive whole joined
    exact ⟨more, yields⟩

end Context

/-- A variable that refers to a list among the overrides. -/
def indirect : Context where
  environment := [("X", "$\x7bL\x7d")]

/-- After a pass only the placeholder of the list is left, and the list is not inserted. It is where the placeholder
is the template. -/
theorem resolve_erase_indirect : (∀ s, Entries.get? [("L", EnvOverride.texts ["a", "b"])] "L" ≠ some (.text s)) ∧
    (1 : Int) ≤ 3 ∧
    indirect.passes? [("L", .texts ["a", "b"])] 3 "$\x7bX\x7d" = .ok ["$\x7bL\x7d", "$\x7bL\x7d"] ∧
    indirect.passes? [] 3 "$\x7bX\x7d" = .ok ["$\x7bL\x7d", "$\x7bL\x7d"] ∧
    indirect.resolve [("L", .texts ["a", "b"])] 3 (some "$\x7bX\x7d") = indirect.resolve [] 3 (some "$\x7bX\x7d") ∧
    ∃ more, indirect.passes? [("L", .texts ["a", "b"])] 3 "$\x7bL\x7d" = .ok ("a;b" :: more) := by
  have listed : ∀ s, Entries.get? [("L", EnvOverride.texts ["a", "b"])] "L" ≠ some (.text s) := by
    intro s
    simp [Entries.get?]
  have computed : indirect.passes [("L", .texts ["a", "b"])] 3 "$\x7bX\x7d" = ["$\x7bL\x7d", "$\x7bL\x7d"] := by
    decide +kernel
  have yields : indirect.passes? [("L", .texts ["a", "b"])] 3 "$\x7bX\x7d" =
      .ok (indirect.passes [("L", .texts ["a", "b"])] 3 "$\x7bX\x7d") := rfl
  have without : Entries.erase [("L", EnvOverride.texts ["a", "b"])] "L" = [] := by decide
  obtain ⟨passed, first, second, same⟩ := (indirect.resolve_erase listed (by decide : (1 : Int) ≤ 3) "$\x7bX\x7d").1
    (by decide +kernel)
  rw [computed] at yields
  rw [without] at second same
  cases yields.symm.trans first
  have whole := (indirect.resolve_erase listed (by decide : (1 : Int) ≤ 3) "$\x7bL\x7d").2 ["a", "b"] rfl
    (by decide +kernel)
  exact ⟨listed, by decide, yields, second, same, whole⟩

end LayeredSettings

import LayeredSettings.Proofs.Placeholder.Splicing

namespace LayeredSettings

theorem splice_congr {text : List Char} {value value' : Placeholder → List Char} {list : List Placeholder}
    (agree : ∀ placeholder ∈ list, value placeholder = value' placeholder) (origin : Nat) :
    splice text value origin list = splice text value' origin list := by
  induction list generalizing origin with
  | nil => rfl
  | cons placeholder rest ih =>
    have here := agree placeholder (List.mem_cons_self ..)
    have later := ih fun other member => agree other (List.mem_cons_of_mem _ member)
    rw [splice, splice, here, later]

/-- Steps from a fixed point stay there. -/
theorem orbit_of_fixed {α : Type} [DecidableEq α] {step : α → α} {x y : α} (fixed : step x = x) {limit : Nat}
    {seen : List α} (member : y ∈ orbit step limit seen x) : y = x := by
  induction limit generalizing seen with
  | zero => cases member
  | succ limit ih =>
    rw [orbit, fixed] at member
    split at member
    · exact List.mem_singleton.mp member
    · rcases List.mem_cons.mp member with same | later
      · exact same
      · exact ih later

namespace Context

variable {context context' : Context} {overrides overrides' : Entries String EnvOverride}
  {template template' : String} {limit : Int}

/-- A pass depends on nothing but the values of the placeholders in the text. -/
theorem passOver_agree {text : String}
    (agree : ∀ placeholder ∈ findPlaceholders text,
      context.valueIn? overrides template text.toList placeholder =
        context'.valueIn? overrides' template' text.toList placeholder) :
    context.passOver overrides template text = context'.passOver overrides' template' text := by
  have whole := context.pass_eq_splice overrides template text.toList 0
  have whole' := context'.pass_eq_splice overrides' template' text.toList 0
  rw [List.drop_zero] at whole whole'
  rw [passOver, passOver, whole, whole']
  refine congrArg String.ofList (splice_congr (fun placeholder member => ?_) 0)
  rw [agree placeholder member]

/-- The texts that are passed over while a template is expanded. The last one that is yielded is not. -/
def passedOver (context : Context) (overrides : Entries String EnvOverride) (limit : Int) (template : String) :
    List String :=
  (template :: context.passes overrides limit.toNat template).dropLast

theorem passes?_agree (agree : ∀ text ∈ context.passedOver overrides limit template,
      context.passOver overrides template text = context'.passOver overrides' template text) :
    context.passes? overrides limit template = context'.passes? overrides' limit template := by
  by_cases positive : 1 ≤ limit
  · rw [passedOver, passes_eq_orbit] at agree
    rw [context.passes?_eq overrides template positive, context'.passes?_eq overrides' template positive,
      orbit_congr _ _ _ agree]
  · have short : passBound limit = .error (.passLimit limit) := if_pos (by omega)
    simp only [passes?, short]

/-- A reference is looked up while a template is expanded: it stands in a text that is passed over. -/
def Consults (context : Context) (overrides : Entries String EnvOverride) (limit : Int) (template : String)
    (reference : Reference) : Prop :=
  ∃ text ∈ context.passedOver overrides limit template, ∃ placeholder ∈ findPlaceholders text,
    placeholder.reference = reference

theorem passes?_of_consulted (agree : ∀ reference, context.Consults overrides limit template reference →
      ∀ whole, context.lookup? overrides whole reference = context'.lookup? overrides whole reference) :
    context.passes? overrides limit template = context'.passes? overrides limit template := by
  refine passes?_agree fun text passed => passOver_agree fun placeholder found => ?_
  exact agree placeholder.reference ⟨text, passed, placeholder, found, rfl⟩ _

/-- A text without placeholders is left as it is. -/
theorem passOver_of_plain (context : Context) {text : String} (plain : findPlaceholders text = []) :
    context.passOver overrides template text = text := by
  have passed := context.pass_eq_splice overrides template text.toList 0
  have none : placeholdersFrom 0 (pieces text.toList) = [] := plain
  rw [List.drop_zero, none, splice, List.drop_zero] at passed
  rw [passOver, passed, String.ofList_toList]

/-- Where the template is a single placeholder, the first pass yields its value, and the others no other text unless
there are placeholders in it. -/
theorem passes?_of_whole (context : Context) (positive : 1 ≤ limit) {reference : Reference} {value : String}
    (whole : findPlaceholders template = [⟨0, template.length, reference⟩])
    (found : context.lookup? overrides true reference = some value) :
    ∃ more, context.passes? overrides limit template = .ok (value :: more) ∧
      (findPlaceholders value = [] → ∀ text ∈ more, text = value) := by
  have size : template.toList.length ≤ template.length := String.length_toList.le
  have slice : (⟨0, template.length, reference⟩ : Placeholder).slice template.toList = template.toList := by
    simp [Placeholder.slice, List.take_of_length_le size]
  have passed := context.pass_eq_splice overrides template template.toList 0
  rw [List.drop_zero] at passed
  have listed : placeholdersFrom 0 (pieces template.toList) = [⟨0, template.length, reference⟩] := whole
  have first : context.passOver overrides template template = value := by
    rw [passOver, passed, listed, splice, splice, valueIn?, slice, decide_eq_true rfl, found,
      List.drop_of_length_le size]
    simp
  obtain ⟨more, bound⟩ : ∃ more, limit.toNat = more + 1 := ⟨limit.toNat - 1, by omega⟩
  rw [context.passes?_eq overrides template positive, bound, orbit, first]
  split
  · exact ⟨_, rfl, fun _ _ member => absurd member List.not_mem_nil⟩
  · exact ⟨_, rfl, fun plain _ member => orbit_of_fixed (context.passOver_of_plain plain) member⟩

/-- A template is resolved to the last text that its passes yield, with the home directory put in. The passes over
the empty template yield just that. -/
theorem exists_last (context : Context) (overrides : Entries String EnvOverride) (positive : 1 ≤ limit)
    (template : String) : ∃ texts last, context.passes? overrides limit template = .ok texts ∧
      texts.getLast? = some last ∧
      context.resolve overrides limit (some template) = .ok (some (context.expandHome last)) := by
  obtain ⟨more, bound⟩ : ∃ more, limit.toNat = more + 1 := ⟨limit.toNat - 1, by omega⟩
  have yields := context.passes?_eq overrides template positive
  have allowed : passBound limit = .ok limit.toNat := if_neg (by omega)
  obtain ⟨early, last, whole, _⟩ := orbit_split (context.passOver overrides template) more [template] template
  rw [bound] at yields
  refine ⟨_, last, yields, by simp [whole], ?_⟩
  by_cases empty : template = ""
  · subst empty
    have same : context.passOver overrides "" "" = "" := by simp [passOver, pass, pieces]
    have only : last = "" := by
      rw [orbit, if_pos (by simp [same]), same] at whole
      have ends := congrArg List.getLast? whole
      simpa using ends.symm
    rw [only]
    rfl
  · simp only [resolve, if_neg empty, allowed, expand, passes_eq_orbit, bound, whole]
    simp

/-- Contexts with the same home directory resolve a template alike if its passes yield the same texts. -/
theorem resolve_agree (positive : 1 ≤ limit)
    (same : context.passes? overrides limit template = context'.passes? overrides' limit template)
    (home : context.home? = context'.home?) :
    context.resolve overrides limit (some template) = context'.resolve overrides' limit (some template) := by
  obtain ⟨texts, last, yields, ends, resolved⟩ := context.exists_last overrides positive template
  obtain ⟨texts', last', yields', ends', resolved'⟩ := context'.exists_last overrides' positive template
  cases yields'.symm.trans (same.symm.trans yields)
  cases ends'.symm.trans ends
  rw [resolved, resolved', expandHome, expandHome, home]

/-- Where the template is a single placeholder whose value has no placeholders in it, that value comes out, with the
home directory put in. -/
theorem resolve_of_whole (context : Context) (positive : 1 ≤ limit) {reference : Reference} {value : String}
    (whole : findPlaceholders template = [⟨0, template.length, reference⟩])
    (found : context.lookup? overrides true reference = some value) (plain : findPlaceholders value = []) :
    context.resolve overrides limit (some template) = .ok (some (context.expandHome value)) := by
  obtain ⟨more, yields, steady⟩ := context.passes?_of_whole positive whole found
  obtain ⟨texts, last, yields', ends, resolved⟩ := context.exists_last overrides positive template
  cases yields'.symm.trans yields
  have only : last = value := by
    rcases List.mem_cons.mp (List.mem_of_getLast? ends) with first | later
    · exact first
    · exact steady plain last later
  rw [resolved, only]

end Context

end LayeredSettings

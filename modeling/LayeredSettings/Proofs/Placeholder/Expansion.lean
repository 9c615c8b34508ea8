import LayeredSettings.Proofs.Placeholder.Agreement
import LayeredSettings.Proofs.Store.Change

namespace LayeredSettings

namespace Context

/-- Whether every setting that a text refers to lies in a section. -/
def refersInto (sectionKey text : String) : Bool :=
  (findPlaceholders text).all fun placeholder =>
    placeholder.reference.source ≠ .setting || placeholder.reference.name = sectionKey ||
      isBelow sectionKey placeholder.reference.name

/-- Whether every setting that is referred to while a template is expanded lies in a section. The
last text is not expanded any further. -/
def expandsInto (context : Context) (sectionKey template : String) : Bool :=
  (template :: context.passes [] defaultPasses template).dropLast.all (refersInto sectionKey)

variable {context : Context} {before after : Flat} {sectionKey : String}

theorem setting_of_single (context : Context) (flat : Flat) (name : String) :
    (({ context with settings := [flat] } : Context).setting? name).bind Value.text? = flat.textOf name := by
  simp only [setting?, List.findSome?_cons, List.findSome?_nil, Flat.textOf]
  cases flat.lookup? name <;> rfl

/-- What replaces a placeholder that refers to a setting of a section only depends on the texts
there. -/
theorem lookup_congr (context : Context) (same : Flat.SameTexts sectionKey before after) (whole : Bool)
    (reference : Reference) (inside : reference.source = .setting → touches sectionKey reference.name = true) :
    ({ context with settings := [before] } : Context).lookup? [] whole reference =
      ({ context with settings := [after] } : Context).lookup? [] whole reference := by
  unfold lookup?
  cases source : reference.source with
  | environment | folder => rfl
  | setting =>
    simp only [setting_of_single]
    exact same _ (inside source)

/-- A pass over a text that refers to settings of a section only depends on the texts there. -/
theorem passOver_same (same : Flat.SameTexts sectionKey before after) {text : String} (template : String)
    (inside : refersInto sectionKey text = true) :
    ({ context with settings := [before] } : Context).passOver [] template text =
      ({ context with settings := [after] } : Context).passOver [] template text := by
  refine passOver_agree fun placeholder found => lookup_congr context same _ placeholder.reference fun source => ?_
  have here := List.all_eq_true.mp inside placeholder found
  simp only [source, ne_eq, not_true_eq_false, decide_false, Bool.false_or] at here
  simp only [touches, here, Bool.true_or]

/-- An expansion that refers to settings of a section only depends on the texts there. -/
theorem expand_congr (context : Context) (same : Flat.SameTexts sectionKey before after) (template : String)
    (inside : ({ context with settings := [after] } : Context).expandsInto sectionKey template = true) :
    ({ context with settings := [before] } : Context).expand [] defaultPasses template =
      ({ context with settings := [after] } : Context).expand [] defaultPasses template := by
  have passes : ({ context with settings := [before] } : Context).passes [] defaultPasses template =
      ({ context with settings := [after] } : Context).passes [] defaultPasses template := by
    simp only [expandsInto, passes_eq_orbit] at inside ⊢
    refine (orbit_congr _ _ _ fun text member => ?_).symm
    exact (passOver_same same template (List.all_eq_true.mp inside text member)).symm
  unfold expand
  rw [passes]
  rfl

end Context

end LayeredSettings

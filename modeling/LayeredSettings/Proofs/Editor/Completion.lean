import LayeredSettings.Editor.Suggestion
import LayeredSettings.Proofs.Editor.Openings
import LayeredSettings.Proofs.Editor.Positions
import LayeredSettings.Proofs.Editor.SettingsDocument
import LayeredSettings.Proofs.Placeholder.Spelling

namespace LayeredSettings

/-- What is in order with repetitions is in strict order without them. -/
theorem pairwise_eraseDups {α : Type} [DecidableEq α] {R : α → α → Prop} {list : List α} (ordered : list.Pairwise R) :
    list.eraseDups.Pairwise fun a b => R a b ∧ a ≠ b := by
  induction size : list.length using Nat.strongRecOn generalizing list with
  | ind n ih =>
    cases list with
    | nil => simp
    | cons first rest =>
      obtain ⟨ahead, ordered⟩ := List.pairwise_cons.mp ordered
      have shorter := List.length_filter_le (fun other => !other == first) rest
      rw [List.eraseDups_cons, List.pairwise_cons]
      refine ⟨fun later member => ?_, ih _ ?_ (ordered.filter _) rfl⟩
      · have there := List.mem_filter.mp (List.mem_eraseDups.mp member)
        have other : later ≠ first := by simpa using there.2
        exact ⟨ahead later there.1, other.symm⟩
      · simp only [List.length_cons] at size
        omega

namespace Project

theorem mem_sortedNames {names : List String} {name : String} : name ∈ sortedNames names ↔ name ∈ names := by
  simp [sortedNames]

theorem pairwise_sortedNames (names : List String) : (sortedNames names).Pairwise (· < ·) := by
  have transitive (a b c : String) (first : decide (a ≤ b) = true) (second : decide (b ≤ c) = true) :
      decide (a ≤ c) = true :=
    decide_eq_true (String.le_trans (of_decide_eq_true first) (of_decide_eq_true second))
  have total (a b : String) : (decide (a ≤ b) || decide (b ≤ a)) = true := by
    simpa using String.le_total a b
  refine (pairwise_eraseDups (List.pairwise_mergeSort transitive total names)).imp fun ⟨order, other⟩ => ?_
  exact String.not_le.mp fun back => other (String.le_antisymm (of_decide_eq_true order) back)

/-- The names of a source where a document with some entries is edited: the variables of the environment and the keys
of the settings, of the document and loaded ones, in order and each once, and the folders as they are given. -/
def NamesOf (project : Project) (entries : List (Scalar × Value)) (names : List String) : Source → Prop
  | .environment => names.Pairwise (· < ·) ∧ ∀ name, name ∈ names ↔ name ∈ project.environment.keys
  | .setting => names.Pairwise (· < ·) ∧
    ∀ name, name ∈ names ↔ name ∈ Entries.keys (flatten "" entries) ∨ name ∈ project.settings.keys
  | .folder => names = project.folders.map Folder.name

variable {project : Project} {load : Loader} {text : String} {source : Source} {entries : List (Scalar × Value)}

theorem exists_names (holds : documentEntries load 0 text.toList = .ok entries)
    (whole : source = .setting → entriesFault? entries = none) :
    ∃ names, project.names load source text = .ok names ∧ project.NamesOf entries names source := by
  cases source with
  | environment => exact ⟨_, rfl, pairwise_sortedNames _, fun name => mem_sortedNames⟩
  | folder => exact ⟨_, rfl, rfl⟩
  | setting =>
    have own : documentSettings load text = .ok (flatten "" entries) := by
      rw [documentSettings_eq, holds, Except.bind, whole rfl]
    refine ⟨sortedNames ((flatten "" entries).keys ++ project.settings.keys), ?_, pairwise_sortedNames _, fun name => ?_⟩
    · rw [names, documentKeys, own]
      rfl
    · rw [mem_sortedNames, List.mem_append]

end Project

/-- Of the openings of placeholders in a text just one is followed by no closing brace. -/
structure OnlyOpening (s front inside : List Char) : Prop where
  whole : s = front ++ '$' :: '{' :: inside
  free : '}' ∉ inside
  only : ∀ other behind, s = other ++ '$' :: '{' :: behind → '}' ∉ behind → behind = inside

section OnlyOpening

variable {s front inside : List Char}

/-- The only opening that no brace follows: none is left open in front of it, and there is no other behind it. -/
theorem onlyOpening_iff : OnlyOpening s front inside ↔ s = front ++ '$' :: '{' :: inside ∧ '}' ∉ inside ∧
    openPlaceholder? front = none ∧ afterLastOpening? inside = none := by
  constructor
  · rintro ⟨whole, free, only⟩
    refine ⟨whole, free, openPlaceholder?_eq_none_iff.mpr fun before between ahead => ?_, ?_⟩
    · refine Decidable.byContradiction fun unclosed => ?_
      have longer : s = before ++ '$' :: '{' :: (between ++ '$' :: '{' :: inside) := by simp [whole, ahead]
      have same := congrArg List.length (only _ _ longer (by simp [unclosed, free]))
      simp at same
      omega
    · rw [afterLastOpening?_eq_none_iff]
      rintro between last rfl
      have shorter : s = (front ++ '$' :: '{' :: between) ++ '$' :: '{' :: last := by simp [whole]
      simp only [List.mem_append, List.mem_cons, not_or] at free
      have same := congrArg List.length (only _ _ shorter free.2.2.2)
      simp at same
      omega
  · rintro ⟨whole, free, none, last⟩
    refine ⟨whole, free, fun other behind split unclosed => ?_⟩
    rcases Nat.lt_trichotomy other.length front.length with ahead | same | beyond
    · obtain ⟨between, rfl, rfl⟩ := opening_behind split whole ahead
      have closed := openPlaceholder?_eq_none_iff.mp none other between rfl
      exact absurd (List.mem_append_left _ closed) unclosed
    · exact (List.cons.inj (List.cons.inj (List.append_inj (split.symm.trans whole) same).2).2).2
    · obtain ⟨between, rfl, rfl⟩ := opening_behind whole split beyond
      exact absurd rfl (afterLastOpening?_eq_none_iff.mp last between behind)

theorem OnlyOpening.openPlaceholder?_eq (only : OnlyOpening s front inside) : openPlaceholder? s = some inside := by
  obtain ⟨whole, free, _, last⟩ := onlyOpening_iff.mp only
  rw [openPlaceholder?, whole, afterLastOpening?_append, last]
  simpa using free

end OnlyOpening

theorem not_mem_textBefore (text : String) (place : Position) : '\n' ∉ textBefore text place := by
  rw [textBefore]
  cases here : lineAt? text place with
  | none => simp
  | some line => exact fun member => not_mem_of_mem_splitAt (List.mem_of_getElem? here) (List.mem_of_mem_take member)

theorem Source.isBody_tag (source : Source) : IsBody source.tag.toList := by
  cases source <;> exact ⟨by decide, by decide⟩

theorem typedName?_eq {source : Source} {mark : Char} (separates : mark = '.' ∨ mark = ':') (part : List Char) :
    typedName? (source.tag.toList ++ mark :: part) = some (source, part) := by
  rw [typedName?, leadingTag?_eq_some_iff.mpr rfl]
  rcases separates with rfl | rfl <;> rfl

namespace Editor

variable {editor : Editor} {locator text : String} {place : Position} {front part : List Char} {source : Source}
  {mark : Char} {entries : List (Scalar × Value)}

/-- What is suggested behind a tag and a separator: the names of the source that begin with what is typed. -/
theorem suggest_eq (opened : editor.documents.get? locator = some text)
    (only : OnlyOpening (textBefore text place) front (source.tag.toList ++ mark :: part))
    (separates : mark = '.' ∨ mark = ':') :
    editor.suggest locator place =
      (editor.project.names editor.host.loader source text).map (suggestNames source part) := by
  rw [suggest, opened]
  simp only [only.openPlaceholder?_eq, typedName?_eq separates]

/-- Behind the only opening on a line that is left open, a tag and a separator, the names of that source are suggested
that begin with what is typed there, in the order of the names. For the settings this is so where the mapping that the
document is can be taken apart; it fails where it cannot. Any name that can stand in a placeholder, put in the place
of what is typed and closed, makes a placeholder that begins with that opening, is the last one of the line up to
there, and refers to just that name. -/
theorem suggest_names (opened : editor.documents.get? locator = some text)
    (holds : Project.documentEntries editor.host.loader 0 text.toList = .ok entries)
    (only : OnlyOpening (textBefore text place) front (source.tag.toList ++ mark :: part))
    (separates : mark = '.' ∨ mark = ':') :
    ((source = .setting → entriesFault? entries = none) → ∃ names items,
      editor.project.NamesOf entries names source ∧ editor.suggest locator place = .ok items ∧
      items.map (fun item => (item.label, item.kind)) =
        (names.filter fun name => part.isPrefixOf name.toList).map (·, .name)) ∧
    (∀ fault, source = .setting → entriesFault? entries = some fault →
      editor.suggest locator place = .error (.valueFault fault)) ∧
    ∀ name : String, IsBody name.toList → ∃ placeholder,
      (findPlaceholders (String.ofList
        (front ++ '$' :: '{' :: (source.tag.toList ++ mark :: name.toList) ++ ['}']))).getLast? = some placeholder ∧
      placeholder.start = front.length ∧ placeholder.reference = ⟨source, name⟩ := by
  have suggested := suggest_eq opened only separates
  refine ⟨fun whole => ?_, fun fault setting broken => ?_, fun name inside => ?_⟩
  · obtain ⟨names, named, own⟩ := Project.exists_names holds whole
    rw [named] at suggested
    exact ⟨names, _, own, suggested, by simp [suggestNames]⟩
  · subst setting
    rw [suggested, Project.names, Project.documentKeys, Project.documentSettings_eq, holds, Except.bind, broken]
    rfl
  · have line := not_mem_textBefore text place
    obtain ⟨whole, _, none, _⟩ := onlyOpening_iff.mp only
    rw [whole] at line
    have written : IsBody (source.tag.toList ++ mark :: name.toList) := by
      refine isBody_append.mpr ⟨source.isBody_tag, isBody_cons.mpr ⟨?_, ?_, inside⟩⟩ <;>
        rcases separates with rfl | rfl <;> decide
    have lists := lists_findPlaceholders (String.ofList
      (front ++ '$' :: '{' :: (source.tag.toList ++ mark :: name.toList) ++ ['}']))
    rw [String.toList_ofList] at lists
    obtain ⟨placeholder, last, begins, _, refers⟩ := lists.exists_last_beginning
      (by simp_all [IsBody]) rfl written.1 none
    refine ⟨placeholder, last, begins, ?_⟩
    have own : RefersTo (source.tag.toList ++ mark :: name.toList) ⟨source, name⟩ :=
      .tagged rfl (separates.imp (congrArg (· :: _)) fun colon => .inl (congrArg (· :: _) colon))
    rw [refersTo_iff.mp refers, refersTo_iff.mp own]

end Editor

/-- A document in which the last line stops short in a name of a setting. -/
def typedText : String := "tools:\n  gcc: /g\npath: $\x7benv:HOME\x7d/$\x7bconfig.to"

/-- The setting of the document is offered, and makes the placeholder that stands last. -/
theorem suggest_names_typed : (editorWith typedText).documents.get? "file:///d" = some typedText ∧
    OnlyOpening (textBefore typedText ⟨2, 29⟩) "path: $\x7benv:HOME\x7d/".toList
      (Source.setting.tag.toList ++ '.' :: ['t', 'o']) ∧
    ∃ entries names items, Project.documentEntries loadYaml 0 typedText.toList = .ok entries ∧
      entriesFault? entries = none ∧
      (editorWith typedText).project.NamesOf entries names .setting ∧
      (editorWith typedText).suggest "file:///d" ⟨2, 29⟩ = .ok items ∧
      items.map (fun item => (item.label, item.kind)) =
        (names.filter fun name => ['t', 'o'].isPrefixOf name.toList).map (·, .name) ∧
      ∃ placeholder, (findPlaceholders "path: $\x7benv:HOME\x7d/$\x7bconfig.tools.gcc\x7d").getLast? = some placeholder ∧
        placeholder.start = 18 ∧ placeholder.reference = ⟨.setting, "tools.gcc"⟩ := by
  have only : OnlyOpening (textBefore typedText ⟨2, 29⟩) "path: $\x7benv:HOME\x7d/".toList
      (Source.setting.tag.toList ++ '.' :: ['t', 'o']) := onlyOpening_iff.mpr (by decide)
  have opened : (editorWith typedText).documents.get? "file:///d" = some typedText := rfl
  have fine : (Project.documentEntries loadYaml 0 typedText.toList).toOption.map entriesFault? = some none := by
    decide +kernel
  cases holds : Project.documentEntries loadYaml 0 typedText.toList with
  | error => simp [holds, Except.toOption] at fine
  | ok entries =>
    have whole : entriesFault? entries = none := by simpa [holds, Except.toOption] using fine
    obtain ⟨offers, _, closes⟩ := Editor.suggest_names opened holds only (.inl rfl)
    obtain ⟨names, items, named, suggested, labels⟩ := offers fun _ => whole
    exact ⟨opened, only, entries, names, items, rfl, whole, named, suggested, labels,
      closes "tools.gcc" ⟨by decide, by decide⟩⟩

/-- A document in which a mapping lies in itself, and the last line stops short. -/
def endlessTypedText : String := "a: &x\n  b: *x\nc: $\x7bconfig:c"

/-- Though the document is well formed, nothing is suggested in it. -/
theorem suggest_names_endless : (Project.documentEntries loadYaml 0 endlessTypedText.toList).toOption.isSome = true ∧
    OnlyOpening (textBefore endlessTypedText ⟨2, 13⟩) "c: ".toList (Source.setting.tag.toList ++ ':' :: ['c']) ∧
    ((editorWith endlessTypedText).suggest "file:///d" ⟨2, 13⟩).toOption = none :=
  ⟨by decide +kernel, onlyOpening_iff.mpr (by decide), by decide +kernel⟩

end LayeredSettings

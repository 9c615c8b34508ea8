import LayeredSettings.Editor.Hover
import LayeredSettings.Proofs.Editor.DocumentContext
import LayeredSettings.Proofs.Placeholder.Lines

namespace LayeredSettings

/-- The place in a whole text at which a line begins. -/
def lineOffset (text : String) (line : Nat) : Nat := lineStart (documentLines text) line

/-- A place lies inside a placeholder of the whole text, which has its positions on the line of that place. -/
structure Placeholder.Covers (placeholder : Placeholder) (text : String) (place : Position) : Prop where
  onLine : ∃ line, lineAt? text place = some line ∧ place.character < line.length
  found : placeholder.shift (lineOffset text place.line) ∈ findPlaceholders text
  start : placeholder.start ≤ place.character
  stop : place.character < placeholder.stop

/-- A placeholder as it is written in the text. -/
def Placeholder.source (placeholder : Placeholder) (text : String) (line : Nat) : String :=
  String.ofList (text.toList.extract (lineOffset text line + placeholder.start) (lineOffset text line + placeholder.stop))

theorem not_mem_of_mem_splitAt {mark : Char} {s part : List Char} (member : part ∈ splitAt mark s) : mark ∉ part := by
  induction s generalizing part with
  | nil => simp_all [splitAt]
  | cons c rest ih =>
    rw [splitAt] at member
    split at member
    · rcases List.mem_cons.mp member with rfl | later
      · simp
      · exact ih later
    · next other =>
      split at member
      · simp only [List.mem_singleton] at member
        simp [member, Ne.symm other]
      · next first others parts =>
        rcases List.mem_cons.mp member with rfl | later
        · have free : mark ∉ first := ih (parts ▸ List.mem_cons_self ..)
          simp [free, Ne.symm other]
        · exact ih (parts ▸ List.mem_cons_of_mem _ later)

section Text

variable {text : String} {place : Position} {placeholder other : Placeholder} {line : List Char}

theorem mem_findPlaceholders_iff : placeholder ∈ findPlaceholders text ↔
    ∃ index line, (documentLines text)[index]? = some line ∧
      ∃ own ∈ findPlaceholders (String.ofList line), placeholder = own.shift (lineOffset text index) := by
  have joined : joinWith '\n' (documentLines text) = text.toList := joinWith_splitAt '\n' text.toList
  have some : documentLines text ≠ [] := splitAt_ne_nil '\n' text.toList
  have free (line : List Char) (member : line ∈ documentLines text) : '\n' ∉ line := not_mem_of_mem_splitAt member
  rw [findPlaceholders, ← joined, mem_placeholders_joinWith some free]
  simp only [Nat.zero_add, findPlaceholders, String.toList_ofList, lineOffset]

/-- A placeholder ends on the line it begins on. -/
theorem stop_le (member : placeholder ∈ findPlaceholders (String.ofList line)) : placeholder.stop ≤ line.length := by
  obtain ⟨_, body, written, _⟩ := (lists_findPlaceholders (String.ofList line)).written placeholder member
  simpa using written.within

/-- What is found on a line is what the whole text has there. -/
theorem shift_mem_iff (here : lineAt? text place = some line) (within : place.character < line.length)
    (start : placeholder.start ≤ place.character) (stop : place.character < placeholder.stop) :
    placeholder.shift (lineOffset text place.line) ∈ findPlaceholders text ↔
      placeholder ∈ findPlaceholders (String.ofList line) := by
  rw [mem_findPlaceholders_iff]
  constructor
  · rintro ⟨index, own, found, other, member, same⟩
    have before : placeholder.start + lineOffset text place.line = other.start + lineOffset text index :=
      congrArg Placeholder.start same
    have behind : placeholder.stop + lineOffset text place.line = other.stop + lineOffset text index :=
      congrArg Placeholder.stop same
    have ends := stop_le member
    -- The place lies on the line of the placeholder, and no two lines overlap.
    have lines : index = place.line := by
      rcases Nat.lt_trichotomy index place.line with earlier | same | later
      · have apart := lineStart_lt found earlier
        simp only [lineOffset] at before behind
        omega
      · exact same
      · have apart := lineStart_lt here later
        simp only [lineOffset] at before behind
        omega
    subst lines
    rw [lineAt?, found] at here
    cases here
    rw [Placeholder.shift_injective same]
    exact member
  · intro member
    exact ⟨place.line, line, here, placeholder, member, rfl⟩

/-- No two placeholders of a text share a place. -/
theorem eq_of_covering {list : List Placeholder} (apart : list.Pairwise fun earlier later => earlier.stop ≤ later.start)
    {character : Nat} (member : placeholder ∈ list) (member' : other ∈ list)
    (start : placeholder.start ≤ character) (stop : character < placeholder.stop)
    (start' : other.start ≤ character) (stop' : character < other.stop) : placeholder = other := by
  induction list with
  | nil => cases member
  | cons first rest ih =>
    obtain ⟨ahead, apart⟩ := List.pairwise_cons.mp apart
    rcases List.mem_cons.mp member with rfl | later <;> rcases List.mem_cons.mp member' with rfl | later'
    · rfl
    · have order := ahead other later'
      omega
    · have order := ahead placeholder later
      omega
    · exact ih apart later later'

/-- The placeholder at a place is the one of the whole text that covers it. -/
theorem placeholderAt?_eq_some_iff : placeholderAt? text place = some placeholder ↔ placeholder.Covers text place := by
  have apart (line : List Char) := (lists_findPlaceholders (String.ofList line)).apart
  constructor
  · intro found
    obtain ⟨line, here, first⟩ := Option.bind_eq_some_iff.mp found
    have member := List.mem_of_find?_eq_some first
    obtain ⟨start, stop⟩ : placeholder.start ≤ place.character ∧ place.character < placeholder.stop := by
      simpa using List.find?_some first
    have within := Nat.lt_of_lt_of_le stop (stop_le member)
    exact ⟨⟨line, here, within⟩, (shift_mem_iff here within start stop).mpr member, start, stop⟩
  · rintro ⟨⟨line, here, within⟩, found, start, stop⟩
    have member := (shift_mem_iff here within start stop).mp found
    obtain ⟨other, first⟩ : ∃ other, (findPlaceholders (String.ofList line)).find?
        (fun own => own.start ≤ place.character && place.character < own.stop) = some other := by
      refine Option.isSome_iff_exists.mp (List.find?_isSome.mpr ⟨placeholder, member, ?_⟩)
      simp [start, stop]
    obtain ⟨start', stop'⟩ : other.start ≤ place.character ∧ place.character < other.stop := by
      simpa using List.find?_some first
    have same := eq_of_covering (apart line) member (List.mem_of_find?_eq_some first) start stop start' stop'
    rw [placeholderAt?, here, same]
    exact first

/-- Every place between the ends of a placeholder is covered by it. -/
theorem Placeholder.Covers.move (covers : placeholder.Covers text place) {character : Nat}
    (start : placeholder.start ≤ character) (stop : character < placeholder.stop) :
    placeholder.Covers text ⟨place.line, character⟩ := by
  obtain ⟨line, here, within⟩ := covers.onLine
  have member := (shift_mem_iff here within covers.start covers.stop).mp covers.found
  exact ⟨⟨line, here, Nat.lt_of_lt_of_le stop (stop_le member)⟩, covers.found, start, stop⟩

/-- On its line a placeholder is written as in the whole text. -/
theorem Placeholder.Covers.source_eq (covers : placeholder.Covers text place) (here : lineAt? text place = some line) :
    String.ofList ((line.take placeholder.stop).drop placeholder.start) = placeholder.source text place.line := by
  obtain ⟨own, same, within⟩ := covers.onLine
  rw [here] at same
  cases same
  have member := (shift_mem_iff here within covers.start covers.stop).mp covers.found
  have ends := stop_le member
  have begins := Nat.le_of_lt (Nat.lt_of_le_of_lt covers.start within)
  have joined : joinWith '\n' (documentLines text) = text.toList := joinWith_splitAt '\n' text.toList
  obtain ⟨front, back, whole, length⟩ := exists_joinWith_eq here
  have offset : lineOffset text place.line = front.length := length.symm
  have size : front.length + placeholder.stop - (front.length + placeholder.start) =
      placeholder.stop - placeholder.start := by omega
  have short : placeholder.stop - placeholder.start ≤ (line.drop placeholder.start).length := by
    rw [List.length_drop]
    omega
  rw [Placeholder.source, offset, ← joined, whole, List.extract_eq_take_drop, ← List.drop_drop, List.drop_left, size,
    List.drop_append_of_le_length begins, List.take_append_of_le_length short, List.drop_take]

end Text

/-- A text whose settings can be read while it is being edited: its loader finds that it is not well formed, or all
mappings in what is loaded can be taken apart. -/
def Project.Readable (load : Loader) (text : String) : Prop :=
  load 0 text.toList = .error .malformed ∨ ∃ v, load 0 text.toList = .ok v ∧ entryFault? v = none

theorem Project.exists_documentContext (project : Project) {load : Loader} {text : String}
    (readable : Readable load text) : ∃ context, project.documentContext load text = .ok context := by
  have settings : ∃ own, documentSettings load text = .ok own := by
    rw [documentSettings]
    rcases readable with malformed | ⟨v, loaded, whole⟩
    · rw [malformed]
      exact ⟨_, rfl⟩
    · rw [loaded]
      cases v with
      | map entries =>
        rw [entryFault?] at whole
        simp only [whole]
        exact ⟨_, rfl⟩
      | _ => exact ⟨_, rfl⟩
  obtain ⟨own, holds⟩ := settings
  exact ⟨_, documentContext_eq holds⟩

namespace Editor

variable {editor : Editor} {locator text : String} {context : Context} {place : Position} {placeholder : Placeholder}

theorem hover_of_none (opened : editor.documents.get? locator = some text) (none : placeholderAt? text place = none) :
    editor.hover locator place = .ok Option.none := by
  rw [hover, opened]
  simp only [none]
  cases lineAt? text place <;> rfl

theorem hover_of_covers (opened : editor.documents.get? locator = some text)
    (reads : editor.project.documentContext editor.host.loader text = .ok context) (covers : placeholder.Covers text place) :
    editor.hover locator place = .ok (some ⟨hoverText (placeholder.source text place.line)
        (context.expand [] defaultPasses (placeholder.source text place.line)),
      ⟨place.line, placeholder.start⟩, ⟨place.line, placeholder.stop⟩⟩) := by
  obtain ⟨line, here, _⟩ := covers.onLine
  rw [hover, opened]
  simp only [here, placeholderAt?_eq_some_iff.mpr covers, reads, covers.source_eq here]
  rfl

/-- The placeholder at a place is the one among those of the whole text that covers it. In a document whose settings
can be read, exactly at such places something is shown: it is the same from one end of the placeholder to the other,
where its range is, and tells what the placeholder, as it is written there, is resolved to in the document. That it
can always be resolved takes the environment of the project to be a plain mapping, in which looking up a variable never
fails. -/
theorem hover_placeholders :
    (∀ text place placeholder, placeholderAt? text place = some placeholder ↔ placeholder.Covers text place) ∧
      ∀ (editor : Editor) (locator text : String), editor.documents.get? locator = some text →
        Project.Readable editor.host.loader text →
        ∃ context, editor.project.documentContext editor.host.loader text = .ok context ∧ ∀ place,
          ((∀ placeholder : Placeholder, ¬ placeholder.Covers text place) → editor.hover locator place = .ok none) ∧
          ∀ placeholder : Placeholder, placeholder.Covers text place → ∃ resolved,
            context.resolve [] defaultPasses (some (placeholder.source text place.line)) = .ok (some resolved) ∧
            ∀ character, placeholder.start ≤ character → character < placeholder.stop →
              editor.hover locator ⟨place.line, character⟩ =
                .ok (some ⟨hoverText (placeholder.source text place.line) resolved,
                  ⟨place.line, placeholder.start⟩, ⟨place.line, placeholder.stop⟩⟩) := by
  refine ⟨fun _ _ _ => placeholderAt?_eq_some_iff, fun editor locator text opened readable => ?_⟩
  obtain ⟨context, reads⟩ := editor.project.exists_documentContext readable
  refine ⟨context, reads, fun place => ⟨fun uncovered => ?_, fun placeholder covers => ?_⟩⟩
  · refine hover_of_none opened ?_
    cases found : placeholderAt? text place with
    | none => rfl
    | some placeholder => exact absurd (placeholderAt?_eq_some_iff.mp found) (uncovered placeholder)
  · refine ⟨context.expand [] defaultPasses (placeholder.source text place.line), ?_, fun character start stop => ?_⟩
    · rw [Context.resolve]
      split
      · next empty => rw [empty, Context.expand, if_pos rfl]
      · rfl
    · exact hover_of_covers opened reads (covers.move start stop)

end Editor

/-- A document in which one line leaves an opening open, and the next one refers to the setting of that line. -/
def openedText : String := "note: $\x7bopen\npath: $\x7benv:HOME\x7d/$\x7bconfig:note\x7d\n"

/-- A server in which a document is open. -/
def editorWith (text : String) : Editor :=
  { project := { environment := [("HOME", "/h")] }, documents := [("file:///d", text)] }

/-- The second placeholder is shown at its last character, and nothing is shown behind the opening. -/
theorem hover_placeholders_opened : (editorWith openedText).documents.get? "file:///d" = some openedText ∧
    Project.Readable loadYaml openedText ∧ Placeholder.Covers ⟨18, 32, ⟨.setting, "note"⟩⟩ openedText ⟨1, 25⟩ ∧
    ∃ context, (editorWith openedText).project.documentContext loadYaml openedText = .ok context ∧
      (∃ resolved, context.resolve [] defaultPasses (some "$\x7bconfig:note\x7d") = .ok (some resolved) ∧
        (editorWith openedText).hover "file:///d" ⟨1, 31⟩ =
          .ok (some ⟨hoverText "$\x7bconfig:note\x7d" resolved, ⟨1, 18⟩, ⟨1, 32⟩⟩)) ∧
      (editorWith openedText).hover "file:///d" ⟨0, 8⟩ = .ok none := by
  have readable : Project.Readable loadYaml openedText := by
    have fine : ((loadYaml 0 openedText.toList).toOption.map entryFault?) = some none := by decide +kernel
    cases loaded : loadYaml 0 openedText.toList with
    | error fault => simp [loaded, Except.toOption] at fine
    | ok v => exact .inr ⟨v, loaded, by simpa [loaded, Except.toOption] using fine⟩
  have found : placeholderAt? openedText ⟨1, 25⟩ = some ⟨18, 32, ⟨.setting, "note"⟩⟩ := by decide +kernel
  have nothing : placeholderAt? openedText ⟨0, 8⟩ = none := by decide +kernel
  have source : Placeholder.source ⟨18, 32, ⟨.setting, "note"⟩⟩ openedText 1 = "$\x7bconfig:note\x7d" := by decide +kernel
  obtain ⟨lookup, answers⟩ := Editor.hover_placeholders
  have covers := (lookup openedText ⟨1, 25⟩ ⟨18, 32, ⟨.setting, "note"⟩⟩).mp found
  obtain ⟨context, reads, shown⟩ := answers (editorWith openedText) "file:///d" openedText rfl readable
  obtain ⟨resolved, value, same⟩ := (shown ⟨1, 25⟩).2 _ covers
  rw [source] at value same
  refine ⟨rfl, readable, covers, context, reads, ⟨resolved, value, same 31 (by decide) (by decide)⟩, ?_⟩
  refine (shown ⟨0, 8⟩).1 fun placeholder covers => ?_
  rw [(lookup _ _ _).mpr covers] at nothing
  cases nothing

/-- A document in which a mapping lies in itself. -/
def endlessText : String := "a: &x\n  b: *x\nc: $\x7benv:HOME\x7d"

/-- A place that is counted on beyond the end of its line is not looked for on the next one, and in a document with a
mapping that lies in itself nothing is shown at all. -/
theorem hover_placeholders_beyond :
    (Placeholder.shift ⟨2, 10, ⟨.environment, "X"⟩⟩ (lineOffset "a\n$\x7benv:X\x7d" 0) ∈
        findPlaceholders "a\n$\x7benv:X\x7d" ∧
      (lineAt? "a\n$\x7benv:X\x7d" ⟨0, 3⟩).isSome = true ∧ placeholderAt? "a\n$\x7benv:X\x7d" ⟨0, 3⟩ = none) ∧
    (loadYaml 0 endlessText.toList).toOption.isSome = true ∧
      placeholderAt? endlessText ⟨2, 4⟩ = some ⟨3, 14, ⟨.environment, "HOME"⟩⟩ ∧
      ((editorWith endlessText).hover "file:///d" ⟨2, 4⟩).toOption = none :=
  ⟨⟨by decide +kernel, by decide, by decide +kernel⟩, by decide +kernel, by decide +kernel, by decide +kernel⟩

end LayeredSettings

import LayeredSettings.Editor.Project
import LayeredSettings.Proofs.Files.Loading
import LayeredSettings.Proofs.Text.Utf8
import LayeredSettings.Proofs.Yaml.Blank

namespace LayeredSettings

/-- A loader gives no mapping for a blank text: it finds that the text is not well formed, or gives another value. -/
def Loader.BlankUnmapped (load : Loader) : Prop :=
  ∀ (reading : Nat) (s : List Char), s.all isBlank = true →
    load reading s = .error .malformed ∨ ∃ v, load reading s = .ok v ∧ ∀ entries, v ≠ .map entries

theorem blankUnmapped_loadYaml : Loader.BlankUnmapped loadYaml := by
  intro reading s blank
  rcases loadYaml_of_blank (List.all_eq_true.mp blank) reading with read | read | ⟨text, read⟩
  · exact .inl read
  · exact .inr ⟨_, read, nofun⟩
  · exact .inr ⟨_, read, nofun⟩

namespace Project

/-- The mapping that a document is while it is being edited: an empty one as long as it is not well formed, or is no
mapping. `reading` tells one reading from another. -/
def documentEntries (load : Loader) (reading : Nat) (s : List Char) : Except Failure (List (Scalar × Value)) :=
  match load reading s with
  | .error .malformed => .ok []
  | .error (.scalar fault) => .error (.scalar fault)
  | .error .tooDeep => .error .tooDeep
  | .ok (.map entries) => .ok entries
  | .ok _ => .ok []

/-- The settings of a document are those of that mapping, taken apart. -/
theorem documentSettings_eq (load : Loader) (text : String) : documentSettings load text =
    (documentEntries load 0 text.toList).bind fun entries =>
      match entriesFault? entries with
      | some fault => .error (.valueFault fault)
      | none => .ok (flatten "" entries) := by
  have empty : flatten "" [] = [] := by rw [flatten, flattenOnto]
  rw [documentSettings, documentEntries]
  cases load 0 text.toList with
  | error fault =>
    cases fault with
    | malformed => rw [← empty]; rfl
    | tooDeep | scalar => rfl
  | ok v =>
    cases v with
    | map => rfl
    | _ => rw [← empty]; rfl

theorem documentEntries_of_blank {load : Loader} (unmapped : load.BlankUnmapped) {s : List Char}
    (blank : s.all isBlank = true) (reading : Nat) : documentEntries load reading s = .ok [] := by
  rw [documentEntries]
  rcases unmapped reading s blank with malformed | ⟨v, loaded, other⟩
  · rw [malformed]
  · rw [loaded]
    cases v with
    | map entries => exact absurd rfl (other entries)
    | _ => rfl

end Project

/-- A text with the line ends of the program is read with those that it has. -/
theorem unifyLineEnds_eq {s : List Char} (lines : '\r' ∉ s) : unifyLineEnds s = s := by
  induction s using unifyLineEnds.induct with
  | case1 => rfl
  | case2 rest ih => exact absurd (List.mem_cons_self ..) lines
  | case3 c rest other ih =>
    simp only [List.mem_cons, not_or] at lines
    rw [unifyLineEnds.eq_3 _ _ other, if_neg (Ne.symm lines.1), ih lines.2]

/-- A text is read from a settings file and from a document alike, but for a mapping with a key that is no text: a
settings file is refused for it, and a document is not. What else is wrong with a settings file leaves a document
without settings, and what brings the reader of the one down brings that of the other down. -/
inductive Agreement (load : Loader) (reading : Nat) (p : Path) (s : List Char) : Prop
  | same {entries : List (Scalar × Value)} : settingsOfDocument load reading p s = .ok entries →
      Project.documentEntries load reading s = .ok entries → Agreement load reading p s
  | refused {f : Failure} : settingsOfDocument load reading p s = .error f → f.isOfSettings = true →
      (∀ key, f ≠ .keyNotText p key) → Project.documentEntries load reading s = .ok [] → Agreement load reading p s
  | key {own : List (Scalar × Value)} {key : Scalar} : badKey? own = some key →
      settingsOfDocument load reading p s = .error (if key.isLong then .valueFault .tooLong else .keyNotText p key) →
      Project.documentEntries load reading s = .ok own → Agreement load reading p s
  | down {f : Failure} : settingsOfDocument load reading p s = .error f → f.isOfSettings = false →
      Project.documentEntries load reading s = .error f → Agreement load reading p s

theorem agreement {load : Loader} (unmapped : load.BlankUnmapped) (reading : Nat) (p : Path) (s : List Char) :
    Agreement load reading p s := by
  cases filled : s.all isBlank with
  | true =>
    refine .same ?_ (Project.documentEntries_of_blank unmapped filled reading)
    simp [settingsOfDocument, filled]
  | false =>
    have file := settingsOfDocument.eq_def load reading p s
    have document := Project.documentEntries.eq_def load reading s
    rw [filled] at file
    cases loaded : load reading s with
    | error fault =>
      rw [loaded] at file document
      cases fault with
      | malformed => exact .refused file rfl (fun _ => by simp) document
      | tooDeep | scalar => exact .down file rfl document
    | ok v =>
      rw [loaded] at file document
      cases v with
      | scalar c =>
        cases c with
        | null => exact .same file document
        | _ => exact .refused file rfl (fun _ => by simp) document
      | list | tuple | set | enclosing => exact .refused file rfl (fun _ => by simp) document
      | map entries =>
        cases bad : badKey? entries with
        | none => exact .same (by simpa [bad] using file) document
        | some key => exact .key bad (by simpa [bad] using file) document

namespace Host

variable {host : Host} {p : Path} {place : List String} {text : String}

theorem settingsOfFile_eq (holds : host.tree.find host.directory p = .ok (place, .file (encodeUtf8 text)))
    (lines : '\r' ∉ text.toList) (reading : Nat) :
    host.settingsOfFile reading p = settingsOfDocument host.loader reading p text.toList := by
  rw [settingsOfFile, holds]
  simp only [decodeUtf8_encodeUtf8, unifyLineEnds_eq lines]

/-- A text that a settings file holds is the same document while it is being edited, whatever loads the two, as long as
it gives no mapping for a blank text. Settings that the file gives are those of the document. A file that is refused
is a document without settings, unless it is refused for a key that is no text: then the document is a mapping with
that key. -/
theorem settingsOfFile_agrees (unmapped : host.loader.BlankUnmapped)
    (holds : host.tree.find host.directory p = .ok (place, .file (encodeUtf8 text)))
    (lines : '\r' ∉ text.toList) (reading : Nat) :
    (∀ entries, host.settingsOfFile reading p = .ok entries →
      Project.documentEntries host.loader reading text.toList = .ok entries) ∧
    ∀ f, host.settingsOfFile reading p = .error f → f.isOfSettings = true →
      ((∀ key, f ≠ .keyNotText p key) → Project.documentEntries host.loader reading text.toList = .ok []) ∧
      ∀ key, f = .keyNotText p key →
        ∃ own, Project.documentEntries host.loader reading text.toList = .ok own ∧ badKey? own = some key := by
  rw [settingsOfFile_eq holds lines reading]
  cases agreement unmapped reading p text.toList with
  | same file document =>
    rw [file]
    exact ⟨fun entries same => by rw [document, Except.ok.inj same], fun f failed => nomatch failed⟩
  | refused file expected other document =>
    rw [file]
    refine ⟨fun entries same => (nomatch same), fun f failed _ => ?_⟩
    cases failed
    exact ⟨fun _ => document, fun key refused => absurd refused (other key)⟩
  | @key own key bad file document =>
    rw [file]
    refine ⟨fun entries same => (nomatch same), fun f failed expected => ?_⟩
    cases failed
    cases long : key.isLong with
    | true =>
      rw [long] at expected
      cases expected
    | false => exact ⟨fun other => absurd rfl (other key), fun _ same => by cases same; exact ⟨own, document, bad⟩⟩
  | down file down _ =>
    rw [file]
    refine ⟨fun entries same => (nomatch same), fun f failed expected => ?_⟩
    cases failed
    rw [down] at expected
    cases expected

end Host

/-- A host with a single file. -/
def fileHost (text : String) : Host := { tree := ⟨[(["settings.yml"], .file (encodeUtf8 text))]⟩ }

/-- Where that file is. -/
def filePath : Path := ⟨.absolute, ["settings.yml"]⟩

theorem find_fileHost (text : String) : (fileHost text).tree.find (fileHost text).directory filePath =
    .ok (["settings.yml"], .file (encodeUtf8 text)) := by
  have plain : ¬ filePath.hasNull = true := by decide
  have short : ¬ filePath.text.utf8ByteSize > pathLimit := by decide
  rw [Tree.find, if_neg plain, if_neg short]
  rfl

/-- Settings of which one has a value and one has none. -/
def partText : String := "tools:\n  gcc: /g\n  clang:\n"

/-- The file and the document are the same mapping. -/
theorem settingsOfFile_agrees_part : Loader.BlankUnmapped loadYaml ∧ '\r' ∉ partText.toList ∧
    (fileHost partText).tree.find (fileHost partText).directory filePath =
      .ok (["settings.yml"], .file (encodeUtf8 partText)) ∧
    ∃ entries, (fileHost partText).settingsOfFile 1 filePath = .ok entries ∧
      Project.documentEntries loadYaml 1 partText.toList = .ok entries ∧ entries.length = 1 := by
  have lines : '\r' ∉ partText.toList := by decide
  have holds := find_fileHost partText
  have read : (settingsOfDocument (fileHost partText).loader 1 filePath partText.toList).toOption.map List.length =
      some 1 := by decide +kernel
  rw [← Host.settingsOfFile_eq holds lines] at read
  cases file : (fileHost partText).settingsOfFile 1 filePath with
  | error f => simp [file, Except.toOption] at read
  | ok entries =>
    obtain ⟨given, _⟩ := Host.settingsOfFile_agrees blankUnmapped_loadYaml holds lines 1
    exact ⟨blankUnmapped_loadYaml, lines, holds, entries, rfl, given entries file,
      by simpa [file, Except.toOption] using read⟩

/-- A mapping whose key is a number. -/
def numberedText : String := "1: a\n"

/-- The file is refused for its key, and the document holds it all the same. -/
theorem settingsOfFile_agrees_numbered : '\r' ∉ numberedText.toList ∧
    (fileHost numberedText).tree.find (fileHost numberedText).directory filePath =
      .ok (["settings.yml"], .file (encodeUtf8 numberedText)) ∧
    (∃ f, (fileHost numberedText).settingsOfFile 1 filePath = .error f ∧ f.isOfSettings = true) ∧
    ∃ own, Project.documentEntries loadYaml 1 numberedText.toList = .ok own ∧ own ≠ [] := by
  have lines : '\r' ∉ numberedText.toList := by decide
  have holds := find_fileHost numberedText
  have refused : ((settingsOfDocument (fileHost numberedText).loader 1 filePath numberedText.toList).mapError
      Failure.isOfSettings).map List.length = .error true := by decide +kernel
  have held : (Project.documentEntries loadYaml 1 numberedText.toList).toOption.map List.length = some 1 := by
    decide +kernel
  refine ⟨lines, holds, ?_, ?_⟩
  · rw [Host.settingsOfFile_eq holds lines]
    cases file : settingsOfDocument (fileHost numberedText).loader 1 filePath numberedText.toList with
    | ok entries => simp [file, Except.mapError, Except.map] at refused
    | error f => exact ⟨f, rfl, by simpa [file, Except.mapError, Except.map] using refused⟩
  · cases document : Project.documentEntries loadYaml 1 numberedText.toList with
    | error f => simp [document, Except.toOption] at held
    | ok own =>
      refine ⟨own, rfl, ?_⟩
      rintro rfl
      simp [document, Except.toOption] at held

end LayeredSettings

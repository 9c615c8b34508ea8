import LayeredSettings.Editor.Basic
import LayeredSettings.Editor.Position

namespace LayeredSettings

/-- What a suggestion stands for: a source of values, or one of its names. -/
inductive SuggestionKind where
  | source
  | name
  deriving DecidableEq, Repr

/-- What may be typed next, as it is shown and as it is inserted. -/
structure Suggestion where
  label : String
  kind : SuggestionKind
  detail : String
  deriving DecidableEq, Repr

/-- The word for what a source holds. -/
def Source.kindWord : Source → String
  | .environment => "Environment variable"
  | .setting => "Setting"
  | .folder => "Workspace folder"

/-- A source and the part of a name, once a tag and a separator are typed. -/
def typedName? (typed : List Char) : Option (Source × List Char) :=
  match leadingTag? typed with
  | some (source, '.' :: part) => some (source, part)
  | some (source, ':' :: part) => some (source, part)
  | _ => none

def suggestSources (typed : List Char) : List Suggestion :=
  (Source.all.filter fun source => typed.isPrefixOf source.tag.toList).map fun source =>
    ⟨source.tag ++ ":", .source, source.kindWord⟩

/-- The names a source has where a document is edited. -/
def Project.names (project : Project) (load : Loader) (source : Source) (text : String) :
    Except Failure (List String) :=
  match source with
  | .environment => .ok (sortedNames project.environment.keys)
  | .setting => project.documentKeys load text
  | .folder => .ok (project.folders.map Folder.name)

def suggestNames (source : Source) (part : List Char) (names : List String) : List Suggestion :=
  (names.filter fun name => part.isPrefixOf name.toList).map fun name =>
    ⟨name, .name, source.kindWord ++ ": $\x7b" ++ source.tag ++ ":" ++ name ++ "\x7d"⟩

/-- What may be typed at a place: sources in a placeholder that has none, and then
the names of its source. -/
def Editor.suggest (editor : Editor) (locator : String) (p : Position) :
    Except Failure (List Suggestion) :=
  match editor.documents.get? locator with
  | none => .ok []
  | some text =>
    match openPlaceholder? (textBefore text p) with
    | none => .ok []
    | some typed =>
      match typedName? typed with
      | none => .ok (suggestSources typed)
      | some (source, part) => (editor.project.names editor.host.loader source text).map (suggestNames source part)

end LayeredSettings

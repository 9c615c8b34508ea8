import LayeredSettings.Editor.Basic
import LayeredSettings.Editor.Position
import LayeredSettings.Placeholder.Resolve

namespace LayeredSettings

/-- What is shown for a placeholder, and from where to where the placeholder goes. -/
structure Hover where
  value : String
  start : Position
  stop : Position
  deriving DecidableEq, Repr

/-- What is shown for a placeholder that stands for a text. -/
def hoverText (source resolved : String) : String :=
  let quoted := "`" ++ source ++ "`"
  if resolved = source then quoted ++ " cannot be resolved"
  else quoted ++ " → `" ++ resolved ++ "`"

/-- Shows what the placeholder at a place stands for. -/
def Editor.hover (editor : Editor) (locator : String) (p : Position) :
    Except Failure (Option Hover) :=
  match editor.documents.get? locator with
  | none => .ok none
  | some text =>
    match lineAt? text p, placeholderAt? text p with
    | some line, some found => do
      let source := String.ofList ((line.take found.stop).drop found.start)
      let context ← editor.project.documentContext editor.host.loader text
      return some ⟨hoverText source (context.expand [] defaultPasses source),
        ⟨p.line, found.start⟩, ⟨p.line, found.stop⟩⟩
    | _, _ => .ok none

end LayeredSettings

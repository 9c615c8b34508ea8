import LayeredSettings.Files.Load

namespace LayeredSettings

/-- The folders, settings and environment that documents are edited in. -/
structure Project where
  folders : List Folder := []
  layers : Layers := .empty
  environment : Entries String String := []
  platform : String := "linux"

namespace Project

def settings (project : Project) : Flat := project.layers.effective

def context (project : Project) : Context :=
  { environment := project.environment, settings := [project.settings], folders := project.folders,
    platform := project.platform }

/-- The settings a document holds while it is being edited, as a loader gives them: none as
long as it is not well formed, or is no mapping. -/
def documentSettings (load : Loader) (text : String) : Except Failure Flat :=
  match load 0 text.toList with
  | .error .malformed => .ok []
  | .error (.scalar fault) => .error (.scalar fault)
  | .error .tooDeep => .error .tooDeep
  | .ok (.map entries) =>
    match entriesFault? entries with
    | some fault => .error (.valueFault fault)
    | none => .ok (flatten "" entries)
  | .ok _ => .ok []

/-- What placeholders in a document refer to: its own settings first, then those that
were loaded. -/
def documentContext (project : Project) (load : Loader) (text : String) : Except Failure Context :=
  (documentSettings load text).map fun own =>
    { project.context with settings := [own, project.settings] }

/-- Texts in order, each once. -/
def sortedNames (names : List String) : List String := (names.mergeSort (· ≤ ·)).eraseDups

/-- The keys of the settings in a document and of those that were loaded. -/
def documentKeys (project : Project) (load : Loader) (text : String) : Except Failure (List String) :=
  (documentSettings load text).map fun own => sortedNames (own.keys ++ project.settings.keys)

/-- A project in folders, with the settings files that apply to it. -/
def load (host : Host) (project : Project) : Except Failure Project := do
  let data ← host.fileLayers 1 (project.folders.head?.map Folder.path)
  match data.findSome? fun layer => entriesFault? layer.2 with
  | some fault => .error (.valueFault fault)
  | none => return { project with layers := project.layers.replace data }

end Project

end LayeredSettings

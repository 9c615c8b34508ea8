import LayeredSettings.Editor.Project
import LayeredSettings.Text.Percent

namespace LayeredSettings

/-- A language server for settings files: the open documents under their locators, the
project they belong to, and what kept the settings files from being loaded. -/
structure Editor where
  host : Host := {}
  project : Project := {}
  documents : Entries String String := []
  fault : Option String := none

/-- A folder as a client names it. -/
structure ClientFolder where
  locator : String
  name : String
  deriving DecidableEq, Repr

/-- The path in a locator of a file. -/
def pathOfLocator? (locator : String) : Option Path :=
  let scheme := "file://".toList
  if scheme.isPrefixOf locator.toList then
    let path := percentDecoded (String.ofList (locator.toList.drop scheme.length))
    if path = "" then none else some (.ofText path)
  else none

/-- The folders of a client that are in the file system, or else the one it calls its
root. -/
def clientFolders (root : Option String) (folders : List ClientFolder) : List Folder :=
  let named := folders.filterMap fun folder =>
    (pathOfLocator? folder.locator).map fun path => ⟨folder.name, path⟩
  if named.isEmpty then
    ((root.bind pathOfLocator?).map fun path => ⟨path.name, path⟩).toList
  else named

namespace Editor

def projectOf (host : Host) (folders : List Folder) : Project :=
  { folders, environment := host.environment }

/-- A server that no client has told anything. -/
def start (host : Host) : Editor := { host, project := projectOf host [] }

/-- Takes over the folders of a client and loads their settings files. A fault of the
files is kept for the client to see; any other failure comes out, and leaves the
folders without settings. -/
def open? (editor : Editor) (root : Option String) (folders : List ClientFolder) :
    Editor × Except Failure Unit :=
  let project := projectOf editor.host (clientFolders root folders)
  let editor := { editor with project }
  match project.load editor.host with
  | .ok loaded => ({ editor with project := loaded, fault := none }, .ok ())
  | .error failure =>
    if failure.isOfSettings then ({ editor with fault := some failure.message }, .ok ())
    else (editor, .error failure)

/-- Takes over the text of a document. -/
def openDocument (editor : Editor) (locator text : String) : Editor :=
  { editor with documents := editor.documents.put locator text }

/-- Takes over the first of some changes, each of which is a whole new text. -/
def changeDocument (editor : Editor) (locator : String) (texts : List String) : Editor :=
  match texts with
  | [] => editor
  | text :: _ => editor.openDocument locator text

/-- The characters after which a client asks for suggestions by itself. -/
def triggers : List String := ["\x7b", ":", "."]

end Editor

end LayeredSettings

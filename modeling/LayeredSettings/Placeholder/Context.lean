import LayeredSettings.Files.Path
import LayeredSettings.Placeholder.Grammar
import LayeredSettings.Store.Flat
import LayeredSettings.Text.Case
import LayeredSettings.Value.Shape

namespace LayeredSettings

/-- A named folder of the workspace. -/
structure Folder where
  name : String
  path : Path
  deriving DecidableEq, Repr, Inhabited

/-- A value that takes precedence over the environment. Only texts and lists of
texts are used. -/
inductive EnvOverride where
  | text (s : String)
  | texts (items : List String)
  | other
  deriving DecidableEq, Repr

def EnvOverride.ofValue (v : Value) : EnvOverride :=
  match v.text?, v.texts? with
  | some s, _ => .text s
  | none, some items => .texts items
  | none, none => .other

/-- All that a placeholder can refer to. A setting is taken from the first of the
maps of settings that has it. The environment is taken to be a plain mapping, which can be
asked for any name; that of a process refuses names that hold half of a surrogate pair. -/
structure Context where
  environment : Entries String String := []
  settings : List Flat := []
  folders : List Folder := []
  platform : String := "linux"

namespace Context

/-- The variable that names the home directory on a platform. -/
def homeVariable (platform : String) : String :=
  if platform = "win32" then "USERPROFILE" else "HOME"

/-- The home directory, if it is known and not empty. -/
def home? (context : Context) : Option String :=
  (context.environment.get? (homeVariable context.platform)).filter (· ≠ "")

def setting? (context : Context) (name : String) : Option Value :=
  context.settings.findSome? (·.lookup? name)

/-- The folder of a name, upper and lower case being alike. The empty name is that
of the first folder. -/
def folder? (context : Context) (name : String) : Option Folder :=
  if name = "" then context.folders.head?
  else context.folders.find? fun folder => lowercase folder.name.toList = lowercase name.toList

/-- The value of an environment variable. A list takes part only where the
placeholder is the whole template, joined by semicolons. Looking up a variable never
fails, as the environment is a plain mapping. -/
def environmentValue? (context : Context) (overrides : Entries String EnvOverride) (whole : Bool)
    (name : String) : Option String :=
  match overrides.get? name, whole with
  | some (.text s), _ => some s
  | some (.texts items), true => some (";".intercalate items)
  | _, _ => context.environment.get? name

/-- The text that replaces a reference, if there is one. -/
def lookup? (context : Context) (overrides : Entries String EnvOverride) (whole : Bool)
    (reference : Reference) : Option String :=
  match reference.source with
  | .environment => context.environmentValue? overrides whole reference.name
  | .setting => (context.setting? reference.name).bind Value.text?
  | .folder => (context.folder? reference.name).map fun folder => folder.path.text

end Context

end LayeredSettings

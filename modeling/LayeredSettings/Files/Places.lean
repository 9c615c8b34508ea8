import LayeredSettings.Console.Printing
import LayeredSettings.Files.Resolve
import LayeredSettings.Failure
import LayeredSettings.Placeholder.Context
import LayeredSettings.Yaml.Load

namespace LayeredSettings

/-- What a program finds around it: the environment, the files and the working directory;
where the tool has settings files for all users and for one of them; and what reads its
documents and writes its lines for the next program. Places, loader and printer are those of
libraries, and nothing is known of them but what is taken for granted where they are used. -/
structure Host where
  environment : Entries String String := []
  tree : Tree := {}
  directory : List String := []
  machineDirectory : Path := ⟨.absolute, ["machine"]⟩
  userDirectory : Path := ⟨.absolute, ["user"]⟩
  loader : Loader := loadYaml
  printer : String → String := printed

namespace Host

def resolve (host : Host) (p : Path) : Except Failure Path :=
  if p.hasNull then .error .nullInPath
  else match host.tree.resolve host.directory p with
    | .ok real => .ok real
    | .error real => .error (.linkLoop real)

def exists? (host : Host) (p : Path) : Except Failure Bool :=
  match host.tree.exists? host.directory p with
  | .ok found => .ok found
  | .error .denied => .error (.searchDenied p)
  | .error _ => .error (.pathTooLong p)

/-- The name of a settings file in one of the tool's own directories. -/
def settingsFileName : String := "settings.yml"

def machinePath (host : Host) : Path := host.machineDirectory.child settingsFileName

def userPath (host : Host) : Path := host.userDirectory.child settingsFileName

/-- The name of a settings file in a project. -/
def projectFileName : String := ".cmakelite.yml"

/-- At most this many directories are searched for a project's settings file. -/
def searchLimit : Nat := 100

end Host

/-- A directory and those around it, from the inside out. -/
def Path.enclosing (p : Path) : List Path :=
  (List.range (p.parts.length + 1)).map fun n => { p with parts := p.parts.take (p.parts.length - n) }

namespace Host

/-- What a search for a settings file comes to: the places it has looked at, in order, and
the file it has found. -/
structure Search where
  looked : List Path := []
  found : Option Path := none
  deriving DecidableEq, Repr

/-- Looks for the settings file of a project in a directory and in those around it, from the
inside out, in at most so many of them. A directory for which `check` fails is passed over,
and the root is its own parent. -/
def searchUp (check : Path → Except Failure Bool) (directories : Nat) (current : Path) : Search :=
  match directories with
  | 0 => {}
  | directories + 1 =>
    let file := current.child projectFileName
    match check file with
    | .ok true => { looked := [file], found := some file }
    | .ok false | .error _ =>
      if current.parent = current then { looked := [file] }
      else
        let outside := searchUp check directories current.parent
        { outside with looked := file :: outside.looked }

/-- The settings file of the project a directory belongs to: that of the nearest
directory around it that has one. A directory that cannot be examined is passed
over, and one in a circle of links belongs to no project. -/
def projectPath? (host : Host) (start : Path) : Except Failure (Option Path) :=
  if start.hasNull then .error .nullInPath
  else match host.resolve start with
    | .error _ => .ok none
    | .ok real => .ok (searchUp host.exists? searchLimit real).found

end Host

/-- The folder at a path, named by the last part of its real place. -/
def Folder.atPath (host : Host) (p : Path) : Except Failure Folder :=
  match host.resolve p with
  | .error failure => .error failure
  | .ok real => .ok ⟨if real.name = "" then real.text else real.name, real⟩

end LayeredSettings

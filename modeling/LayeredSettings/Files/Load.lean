import LayeredSettings.Files.Places
import LayeredSettings.Text.Blank
import LayeredSettings.Yaml.Load

namespace LayeredSettings

/-- The first key of a mapping that is no text. -/
def badKey? (entries : List (Scalar × Value)) : Option Scalar :=
  (entries.map Prod.fst).find? fun
    | .text _ => false
    | _ => true

/-- The settings a document holds, as a loader gives them: those of the mapping it is, or
none if it is blank or null. -/
def settingsOfDocument (load : Loader) (reading : Nat) (p : Path) (s : List Char) :
    Except Failure (List (Scalar × Value)) :=
  if s.all isBlank then .ok []
  else match load reading s with
    | .error .malformed => .error (.malformed p)
    | .error (.scalar fault) => .error (.scalar fault)
    | .error .tooDeep => .error .tooDeep
    | .ok .null => .ok []
    | .ok (.map entries) =>
      match badKey? entries with
      | some key => .error (if key.isLong then .valueFault .tooLong else .keyNotText p key)
      | none => .ok entries
    | .ok _ => .error (.notMapping p)

/-- A settings file, or a directory in its place, that may not be read. -/
def Failure.locked (p : Path) : Failure :=
  .raised .settings ("Error reading settings file '" ++ p.text ++ "': [Errno 13] Permission denied: " ++ quoted p.text)

/-- The number of files that are read together. Each has a reading of its own. -/
def filesRead : Nat := 3

namespace Host

/-- The settings of a file, none if there is no file. A file is read as UTF-8: that the locale
says so is an assumption about how the program is run. `reading` tells one reading of
files from another. -/
def settingsOfFile (host : Host) (reading : Nat) (p : Path) :
    Except Failure (List (Scalar × Value)) :=
  match host.tree.find host.directory p with
  | .error .denied => .error (.searchDenied p)
  | .error .tooLong => .error (.pathTooLong p)
  | .error _ => .ok []
  | .ok (_, .file content) =>
    match decodeUtf8 content with
    | .error fault => .error (.badBytes fault)
    | .ok chars => settingsOfDocument host.loader reading p (unifyLineEnds chars)
  | .ok (_, .locked) | .ok (_, .directory ⟨_, false⟩) => .error (.locked p)
  | .ok _ => .error (.isDirectory p)

/-- The settings of the files for all users, for one user, and of the project a
directory belongs to. The first file that cannot be used fails all. -/
def fileLayers (host : Host) (reading : Nat) (directory : Option Path) :
    Except Failure (List (Layer × List (Scalar × Value))) := do
  let project ← match directory with
    | some start => host.projectPath? start
    | none => .ok none
  let machine ← host.settingsOfFile reading host.machinePath
  let user ← host.settingsOfFile (reading + 1) host.userPath
  let own ← match project with
    | some p => host.settingsOfFile (reading + 2) p
    | none => .ok []
  return [(.machine, machine), (.user, user), (.project, own)]

end Host

end LayeredSettings

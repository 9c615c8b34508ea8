import LayeredSettings.Command.Run
import LayeredSettings.Editor.Basic
import LayeredSettings.Proofs.Session.Reload

namespace LayeredSettings

/-- What can be wrong with a settings file, as those who read settings are told of it. -/
inductive Failure.OfFile (p : Path) : Failure → Prop
  | directory : OfFile p (.isDirectory p)
  | locked : OfFile p (.locked p)
  | malformed : OfFile p (.malformed p)
  | notMapping : OfFile p (.notMapping p)
  | key (key : Scalar) : OfFile p (.keyNotText p key)

namespace Failure.OfFile

variable {p : Path} {f : Failure}

theorem isOfSettings (own : OfFile p f) : f.isOfSettings = true := by
  cases own <;> rfl

/-- The failure tells which file it is about. -/
theorem message (own : OfFile p f) :
    ∃ before after, f.message = before ++ ("settings file '" ++ p.text ++ "'") ++ after := by
  have reading : "Error reading settings file '" = "Error reading " ++ "settings file '" := by simp
  have parsing : "Error parsing YAML in settings file '" = "Error parsing YAML in " ++ "settings file '" := by simp
  have within : "Error in settings file '" = "Error in " ++ "settings file '" := by simp
  have directory : "': [Errno 21] Is a directory: " = "'" ++ ": [Errno 21] Is a directory: " := by simp
  have locked : "': [Errno 13] Permission denied: " = "'" ++ ": [Errno 13] Permission denied: " := by simp
  have malformed : "': not well formed" = "'" ++ ": not well formed" := by simp
  have mapping : "': top level must be a mapping" = "'" ++ ": top level must be a mapping" := by simp
  have keys : "': keys must be strings, found " = "'" ++ ": keys must be strings, found " := by simp
  cases own with
  | directory =>
    have shown : (Failure.isDirectory p).message =
        "Error reading settings file '" ++ p.text ++ "': [Errno 21] Is a directory: " ++ quoted p.text := rfl
    refine ⟨"Error reading ", ": [Errno 21] Is a directory: " ++ quoted p.text, ?_⟩
    rw [shown, reading, directory]
    simp only [String.append_assoc]
  | locked =>
    have shown : (Failure.locked p).message =
        "Error reading settings file '" ++ p.text ++ "': [Errno 13] Permission denied: " ++ quoted p.text := rfl
    refine ⟨"Error reading ", ": [Errno 13] Permission denied: " ++ quoted p.text, ?_⟩
    rw [shown, reading, locked]
    simp only [String.append_assoc]
  | malformed =>
    have shown : (Failure.malformed p).message =
        "Error parsing YAML in settings file '" ++ p.text ++ "': not well formed" := rfl
    refine ⟨"Error parsing YAML in ", ": not well formed", ?_⟩
    rw [shown, parsing, malformed]
    simp only [String.append_assoc]
  | notMapping =>
    have shown : (Failure.notMapping p).message =
        "Error in settings file '" ++ p.text ++ "': top level must be a mapping" := rfl
    refine ⟨"Error in ", ": top level must be a mapping", ?_⟩
    rw [shown, within, mapping]
    simp only [String.append_assoc]
  | key key =>
    have shown : (Failure.keyNotText p key).message =
        "Error in settings file '" ++ p.text ++ "': keys must be strings, found " ++ key.literal := rfl
    refine ⟨"Error in ", ": keys must be strings, found " ++ key.literal, ?_⟩
    rw [shown, within, keys]
    simp only [String.append_assoc]

end Failure.OfFile

section Document

variable {load : Loader} {reading : Nat} {s : List Char} {p : Path}

end Document

namespace Host

variable {host : Host} {reading : Nat} {directory : Option Path} {p : Path} {f : Failure}

end Host

end LayeredSettings

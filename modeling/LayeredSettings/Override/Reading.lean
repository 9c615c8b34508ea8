import LayeredSettings.Failure
import LayeredSettings.Log.Markup
import LayeredSettings.Override.Record
import LayeredSettings.Pattern.Reading
import LayeredSettings.Placeholder.Pass
import LayeredSettings.Text.Json

namespace LayeredSettings

/-- A setting of the override section with the key it has. -/
structure OverrideSetting where
  key : String
  value : Value

def overrideSetting (settings : Flat) (name : String) : OverrideSetting :=
  let key := overrideSection ++ "." ++ name
  ⟨key, (settings.lookup? key).getD .null⟩

def ignoredMessage (wrong : WrongValue) : LogMessage :=
  { level := .warn, text := "Ignoring invalid setting: " ++ escapeMarkup wrong.message }

/-- A reading of settings: it logs messages and may fail, and the messages before a failure
stay logged. -/
abbrev SettingReader := ExceptT Failure (StateM (List LogMessage))

namespace SettingReader

def note (message : LogMessage) : SettingReader Unit := modify (· ++ [message])

/-- A setting that could not be used counts as absent, with a warning. One that cannot be
described in a warning makes the reading fail. -/
def orIgnored (result : Except NarrowFault (Option α)) : SettingReader (Option α) := do
  match result with
  | .ok value => return value
  | .error (.wrong wrong) =>
    note (ignoredMessage wrong)
    return none
  | .error (.value fault) => throw (.valueFault fault)

def choice (α : Type) [Choice α] (settings : Flat) (name : String) : SettingReader (Option α) :=
  let setting := overrideSetting settings name
  orIgnored (setting.value.narrowChoice α setting.key)

def text (settings : Flat) (name : String) : SettingReader (Option String) :=
  let setting := overrideSetting settings name
  orIgnored (setting.value.narrowText setting.key)

/-- The compiler path with its placeholders expanded. -/
def compilerPath (settings : Flat) (context : Context) : SettingReader (Option String) := do
  match ← text settings "compilerPath" with
  | none => return none
  | some raw =>
    let path := context.expand [] defaultPasses raw
    if path ≠ raw then
      note { level := .debug, text := "Resolved compilerPath '" ++ raw ++ "' to '" ++ path ++ "'", plain := true }
    return some path

/-- The filter pattern, which has to be one that can be used. -/
def filter (settings : Flat) : SettingReader (Option String) := do
  match ← text settings "filterCompilerArgs" with
  | none => return none
  | some raw =>
    match checkPattern raw with
    | .ok _ => return some raw
    | .error failure => throw (.ofPattern raw failure)

/-- Reads the settings of the record one after the other. -/
def record (settings : Flat) (context : Context) : SettingReader OverrideRecord := do
  note { level := .info, text := "Updating settings" }
  let mode ← choice IntelliSenseMode settings "intelliSenseMode"
  let cpp ← choice CppStandard settings "cppStandard"
  let c ← choice CStandard settings "cStandard"
  let path ← compilerPath settings context
  let pattern ← filter settings
  return ⟨mode, cpp, c, path, pattern⟩

end SettingReader

/-- Reads the record from the settings in force. A setting of the wrong kind is ignored
with a warning. A filter pattern that cannot be used makes the reading fail, and so
does a setting that cannot be described. The messages are those of the reading,
whether or not it fails. -/
def readOverride (settings : Flat) (context : Context) : Except Failure OverrideRecord × List LogMessage :=
  (SettingReader.record settings context).run.run []

end LayeredSettings

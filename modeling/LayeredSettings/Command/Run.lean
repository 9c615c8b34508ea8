import LayeredSettings.Command.Arguments
import LayeredSettings.Command.Overrides
import LayeredSettings.Console.Table
import LayeredSettings.Log.Verbosity
import LayeredSettings.Session.Run

namespace LayeredSettings

/-- What a command leaves behind: how it ended, what it wrote for the next program, and
what it wrote for its user. A failure that no command expects ends it. -/
structure CommandResult where
  exitCode : Nat := 0
  output : String := ""
  diagnostics : String := ""
  failure : Option Failure := none

namespace CommandResult

/-- How a command ends that was called wrongly. -/
def misuse : CommandResult := { exitCode := 2 }

def unexpected (failure : Failure) : CommandResult := { exitCode := 1, failure := some failure }

/-- A result as it can be written. What is for the user shows halves of surrogate pairs as
escapes, and what is for the next program may hold none. -/
def written (result : CommandResult) : CommandResult :=
  let result := { result with
    diagnostics := String.ofList (escapeSurrogates result.diagnostics.toList) }
  match encodeFault? result.output.toList with
  | some fault => { result with exitCode := 1, output := "", failure := some (.unwritable fault) }
  | none => result

/-- A result with more to tell the user before it. -/
def after (diagnostics : String) (result : CommandResult) : CommandResult :=
  { result with diagnostics := diagnostics ++ result.diagnostics }

end CommandResult

/-- What a command that works in folders goes by. -/
structure CommandContext where
  host : Host
  verbosity : Verbosity
  roots : List Path

namespace CommandContext

/-- The cells in a line of the terminal, an assumption about how the program is run. -/
def terminalWidth : Nat := 1000

/-- A text on the terminal, ended by a line end. -/
def diagnostic (s : String) : String :=
  String.ofList (joinWith '\n' (wrapped .fold terminalWidth s.toList) ++ ['\n'])

/-- A message on the terminal, if messages of its level are logged. -/
def logged (verbosity : Verbosity) (message : LogMessage) : String :=
  if verbosity.allows message.level then
    let text := if message.plain then shownPlain message.text else shownMarkup message.text
    match message.level.tag? with
    | some tag => diagnostic (tag.text ++ " " ++ text)
    | none => diagnostic text
  else ""

/-- How a command ends with a failure: it reports one of the settings and stops. -/
def failing (context : CommandContext) (failure : Failure) : CommandResult :=
  if failure.isOfSettings then
    let message : LogMessage := { level := .error, text := escapeMarkup failure.message }
    { exitCode := 1, diagnostics := logged context.verbosity message }
  else .unexpected failure

/-- The session in the folders of a command. -/
def session (context : CommandContext) : Except Failure World :=
  World.load { environment := context.host.environment, host := context.host, logging := true }
    context.roots

/-- Resolves a template and writes the result. -/
def resolve (context : CommandContext) (template : String)
    (overrides : Entries String EnvOverride) (limit : Nat) : CommandResult :=
  match context.session with
  | .error failure => context.failing failure
  | .ok w =>
    let passes := w.context.passes overrides limit template
    let messages : List LogMessage := passes.mapIdx fun n text =>
      { level := .trace, text := s!"pass {n + 1}: {text}", plain := true }
    { output := context.host.printer (w.context.expand overrides limit template),
      diagnostics := String.join (messages.map (logged context.verbosity)) }

/-- The row of a setting. -/
def settingRow (setting : String × Option String) : String × String :=
  (setting.1, match setting.2 with
    | some value => shownMarkup (escapeMarkup value)
    | none => "<absent>")

def settingsTable (r : OverrideRecord) : Table :=
  { title := overrideSection, header := ("Setting", "Value"), rows := r.fields.map settingRow }

/-- Writes the override settings in force. -/
def settings (context : CommandContext) : CommandResult :=
  match context.session with
  | .error failure => context.failing failure
  | .ok w =>
    let (w, result) := w.run (.withLive [])
    let messages := w.log.filterMap fun
      | .message m => some m
      | _ => none
    let ended : CommandResult := match result with
      | .error failure => context.failing failure
      | .ok _ =>
        let lines := (settingsTable (w.live 0).record).lines terminalWidth
        { output := String.ofList (joinWith '\n' lines ++ ['\n']) }
    ended.after (String.join (messages.map (logged context.verbosity)))

end CommandContext

/-- What the program is called and its version. -/
def versionLine : String := "cmake-lite version 0.1.0\n"

def helpOption : CommandOption := { name := "--help", takesValue := false }

def programOptions : List CommandOption :=
  [{ name := "--version", letter := some 'v', takesValue := false }, { name := "--log-level" },
    { name := "--workspace", letter := some 'w' }, helpOption]

def resolveOptions : List CommandOption :=
  [{ name := "--env", letter := some 'e' }, { name := "--max-passes" }, helpOption]

/-- A bound on passes as it is given, if it allows at least one. -/
def passLimit? (arguments : Arguments) : Option Nat :=
  match arguments.value? "--max-passes" with
  | none => some defaultPasses
  | some text =>
    match readWhole 10 text.toList with
    | .ok n => if n < 1 then none else some n.toNat
    | .error _ => none

/-- The overrides that values of the option for variables name. A value that is no name and value ends the command. -/
def envOverrides (items : List String) : Except CommandResult (Entries String EnvOverride) :=
  match collectOverrides [] items with
  | .ok overrides => .ok overrides
  | .error item =>
    let text := "Invalid --env value '" ++ escapeMarkup item ++ "': expected NAME=VALUE"
    .error { exitCode := 1, diagnostics := CommandContext.diagnostic (shownMarkup text) }

def runResolve (context : CommandContext) (arguments : List String) : CommandResult :=
  match readArguments? resolveOptions true arguments with
  | none => .misuse
  | some read =>
    if read.has "--help" then {}
    else match passLimit? read, read.others with
      | some limit, [template] =>
        match envOverrides (read.values "--env") with
        | .error result => result
        | .ok overrides => context.resolve template overrides limit
      | _, _ => .misuse

/-- A command that takes no arguments. -/
def runBare (arguments : List String) (run : CommandResult) : CommandResult :=
  match readArguments? [helpOption] true arguments with
  | none => .misuse
  | some read =>
    if read.has "--help" then {} else if read.others.isEmpty then run else .misuse

/-- The commands by name. The language server ends at once, as nobody talks to it. -/
def command? (name : String) : Option (CommandContext → List String → CommandResult) :=
  match name with
  | "resolve" => some runResolve
  | "settings" => some fun context arguments => runBare arguments context.settings
  | "lsp" => some fun _ arguments => runBare arguments {}
  | _ => none

/-- The folders that options name. -/
def namedRoots (options : Arguments) : List Path := (options.values "--workspace").map Path.ofText

/-- Runs a command once the options in front of it are read. -/
def runCommand (host : Host) (options : Arguments)
    (command : CommandContext → List String → CommandResult) (arguments : List String) :
    CommandResult :=
  let name := (options.value? "--log-level").getD "info"
  match LogLevel.ofName? name with
  | none =>
    let text := escapeMarkup (Failure.unknownLevel name).message
    { exitCode := 1, diagnostics := CommandContext.diagnostic (shownMarkup text) }
  | some level =>
    let roots := namedRoots options
    let here : Path := Path.ofText ("/" ++ "/".intercalate host.directory)
    command ⟨host, { base := level }, if roots.isEmpty then [here] else roots⟩ arguments

/-- Runs the program with its arguments. -/
def runProgram (host : Host) (arguments : List String) : CommandResult :=
  match readArguments? programOptions false arguments with
  | none => .misuse
  | some options =>
    match options.given.find? fun given => given.name = "--version" ∨ given.name = "--help" with
    | some given => { output := if given.name = "--version" then versionLine else "" }
    | none =>
      match options.others with
      | [] => .misuse
      | name :: rest =>
        match command? name with
        | none => .misuse
        | some command => (runCommand host options command rest).written

end LayeredSettings

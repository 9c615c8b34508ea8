import LayeredSettings.Command.Run
import LayeredSettings.Proofs.Console.Drawing
import LayeredSettings.Proofs.Files.Search

namespace LayeredSettings

namespace CommandResult

/-- The end of a command that fails and writes nothing for the next program. -/
structure Silent (result : CommandResult) : Prop where
  failed : result.exitCode ≠ 0
  empty : result.output = ""

theorem silent_misuse : misuse.Silent := ⟨by decide, rfl⟩

theorem silent_unexpected (failure : Failure) : (unexpected failure).Silent := ⟨by simp [unexpected], rfl⟩

variable {result : CommandResult}

theorem written_of_writable (writable : encodeFault? result.output.toList = none) : result.written =
    { result with diagnostics := String.ofList (escapeSurrogates result.diagnostics.toList) } := by
  simp only [written, writable]

theorem written_of_fault {fault : EncodeFault} (unwritable : encodeFault? result.output.toList = some fault) :
    result.written.Silent := by
  simp only [written, unwritable]
  exact ⟨by simp, rfl⟩

theorem Silent.written (silent : result.Silent) : result.written.Silent := by
  have writable : encodeFault? result.output.toList = none := by rw [silent.empty]; rfl
  rw [written_of_writable writable]
  exact ⟨silent.failed, silent.empty⟩

end CommandResult

theorem CommandContext.silent_failing (context : CommandContext) (failure : Failure) :
    (context.failing failure).Silent := by
  rw [failing]
  split
  · exact ⟨by simp, rfl⟩
  · exact CommandResult.silent_unexpected failure

theorem silent_of_envOverrides {items : List String} {result : CommandResult}
    (stopped : envOverrides items = .error result) : result.Silent := by
  rw [envOverrides] at stopped
  split at stopped
  · cases stopped
  · cases stopped
    exact ⟨by simp, rfl⟩

theorem join_eq_empty {parts : List String} (blank : ∀ part ∈ parts, part = "") : String.join parts = "" := by
  induction parts with
  | nil => rfl
  | cons part parts ih =>
    rw [String.join_cons, blank part List.mem_cons_self, ih fun other member => blank other (List.mem_cons_of_mem _ member)]
    rfl

/-- A printer writes a text as it is, and a line end, if the text holds no picture and nothing that a terminal shows in
another way. Of the printer of a program this is true only as long as its terminal is wide enough for every line: it
may leave out blanks at the end of a line that is too wide. -/
def PrintsVerbatim (print : String → String) : Prop :=
  ∀ s : String, ¬HoldsPicture s.toList → (∀ c ∈ s.toList, isReshown c = false) → print s = s ++ "\n"

theorem printsVerbatim_printed : PrintsVerbatim printed := by
  intro s free kept
  rw [printed, shownPlain, drawn_of_free free, String.ofList_toList, shown_of_free kept]
  simp

/-- A bound on passes that is taken allows at least one. -/
theorem one_le_of_passLimit? {read : Arguments} {limit : Nat} (taken : passLimit? read = some limit) : 1 ≤ limit := by
  rw [passLimit?] at taken
  split at taken
  · cases taken
    decide
  · split at taken
    · next n _ =>
      split_ifs at taken with low
      cases taken
      omega
    · cases taken

/-- A template is resolved to what it expands to. -/
theorem Context.resolve_eq_expand (context : Context) (overrides : Entries String EnvOverride) {limit : Nat}
    (positive : 1 ≤ limit) (template : String) :
    context.resolve overrides limit (some template) = .ok (some (context.expand overrides limit template)) := by
  by_cases blank : template = ""
  · simp only [resolve, expand, if_pos blank]
  · have bound : passBound limit = .ok limit := by
      rw [passBound, if_neg (by omega)]
      rfl
    simp only [resolve, if_neg blank, bound]

/-- A call of the program that has a template resolved: the options in front can be read and ask neither for the
version nor for help, and nor do those of the command, as far as they can be read. -/
structure ResolveCall (arguments : List String) where
  options : Arguments
  rest : List String
  front : readArguments? programOptions false arguments = some options
  working : (options.given.find? fun given => given.name = "--version" ∨ given.name = "--help") = none
  command : options.others = "resolve" :: rest
  unhelped : ∀ read, readArguments? resolveOptions true rest = some read → read.has "--help" = false

namespace ResolveCall

variable {arguments : List String}

/-- The folders that a call works in: those it names, or the working directory. -/
def roots (call : ResolveCall arguments) (host : Host) : List Path :=
  if (namedRoots call.options).isEmpty then [Path.ofText ("/" ++ "/".intercalate host.directory)]
  else namedRoots call.options

/-- The level of messages that a call asks for by name. -/
def level? (call : ResolveCall arguments) : Option LogLevel :=
  LogLevel.ofName? ((call.options.value? "--log-level").getD "info")

/-- What a call asks for, and what its template resolves to: the level of its messages, a bound on passes, a template
and overrides, which its arguments give, and the value of the template in the settings of the folders. -/
structure Resolution (call : ResolveCall arguments) (host : Host) where
  level : LogLevel
  read : Arguments
  limit : Nat
  template : String
  overrides : Entries String EnvOverride
  world : World
  value : String
  leveled : call.level? = some level
  readable : readArguments? resolveOptions true call.rest = some read
  limited : passLimit? read = some limit
  single : read.others = [template]
  collected : envOverrides (read.values "--env") = .ok overrides
  opened : World.load { environment := host.environment, host := host, logging := true } (call.roots host) = .ok world
  resolved : world.context.resolve overrides limit (some template) = .ok (some value)

variable {host : Host} {call : ResolveCall arguments}

/-- What a template resolves to depends on the folders and on the arguments of the command only. -/
theorem Resolution.value_eq {others : List String} {other : ResolveCall others} (resolution : call.Resolution host)
    (resolution' : other.Resolution host) (rest : call.rest = other.rest) (roots : call.roots host = other.roots host) :
    resolution.value = resolution'.value := by
  have read : resolution.read = resolution'.read :=
    Option.some.inj (resolution.readable.symm.trans (rest ▸ resolution'.readable))
  have limit : resolution.limit = resolution'.limit :=
    Option.some.inj (resolution.limited.symm.trans (read ▸ resolution'.limited))
  have template : resolution.template = resolution'.template :=
    List.singleton_inj.mp (resolution.single.symm.trans (read ▸ resolution'.single))
  have overrides : resolution.overrides = resolution'.overrides :=
    Except.ok.inj (resolution.collected.symm.trans (read ▸ resolution'.collected))
  have world : resolution.world = resolution'.world :=
    Except.ok.inj (resolution.opened.symm.trans (roots ▸ resolution'.opened))
  have resolved := resolution.resolved
  rw [limit, template, overrides, world, resolution'.resolved] at resolved
  exact (Option.some.inj (Except.ok.inj resolved)).symm

/-- The messages about the passes of a resolution, as far as they are logged. -/
def Resolution.trace (resolution : call.Resolution host) : String :=
  let passes := resolution.world.context.passes resolution.overrides resolution.limit resolution.template
  let messages : List LogMessage := passes.mapIdx fun n text =>
    { level := .trace, text := s!"pass {n + 1}: {text}", plain := true }
  String.join (messages.map (CommandContext.logged { base := resolution.level }))

/-- What a resolution writes, for the next program and for the user. -/
def Resolution.result (resolution : call.Resolution host) : CommandResult :=
  { output := host.printer resolution.value, diagnostics := resolution.trace }

/-- The passes are told only at the level below all others. -/
theorem Resolution.trace_of_ne (resolution : call.Resolution host) (above : resolution.level ≠ .trace) :
    resolution.trace = "" := by
  have barred : Verbosity.allows { base := resolution.level } .trace = false := by
    cases named : resolution.level <;> first | rfl | exact absurd named above
  refine join_eq_empty fun line member => ?_
  obtain ⟨message, listed, rfl⟩ := List.mem_map.mp member
  obtain ⟨n, _, rfl⟩ := List.mem_mapIdx.mp listed
  simp only [CommandContext.logged, barred, Bool.false_eq_true, if_false]

theorem runProgram_eq (call : ResolveCall arguments) (host : Host) :
    runProgram host arguments = (runCommand host call.options runResolve call.rest).written := by
  simp only [runProgram, call.front, call.working, call.command, command?]

/-- A call whose template has a value writes it. -/
theorem runProgram_of_resolution (resolution : call.Resolution host) :
    runProgram host arguments = resolution.result.written := by
  have level : LogLevel.ofName? ((call.options.value? "--log-level").getD "info") = some resolution.level :=
    resolution.leveled
  have value : resolution.world.context.expand resolution.overrides resolution.limit resolution.template =
      resolution.value := by
    have resolved := resolution.resolved
    rw [Context.resolve_eq_expand _ _ (one_le_of_passLimit? resolution.limited)] at resolved
    simpa using resolved
  have opened : CommandContext.session ⟨host, { base := resolution.level }, call.roots host⟩ = .ok resolution.world :=
    resolution.opened
  have ran : runCommand host call.options runResolve call.rest = resolution.result := by
    simp only [runCommand, level, runResolve, resolution.readable, call.unhelped _ resolution.readable,
      resolution.limited, resolution.single, resolution.collected, Bool.false_eq_true, if_false]
    change CommandContext.resolve ⟨host, { base := resolution.level }, call.roots host⟩ _ _ _ = _
    simp only [CommandContext.resolve, opened, value]
    rfl
  rw [call.runProgram_eq, ran]

/-- A value that can be written is written, with the messages about its passes. -/
theorem runProgram_of_writable (resolution : call.Resolution host)
    (writable : encodeFault? (host.printer resolution.value).toList = none) :
    runProgram host arguments = { resolution.result with
      diagnostics := String.ofList (escapeSurrogates resolution.trace.toList) } := by
  rw [runProgram_of_resolution resolution]
  exact CommandResult.written_of_writable writable

theorem silent_of_unwritable (resolution : call.Resolution host) {fault : EncodeFault}
    (unwritable : encodeFault? (host.printer resolution.value).toList = some fault) :
    (runProgram host arguments).Silent := by
  rw [runProgram_of_resolution resolution]
  exact CommandResult.written_of_fault unwritable

/-- A call that comes to no value, for whatever reason, fails and writes nothing for the next program. -/
theorem silent_of_unresolved (unresolved : ¬Nonempty (call.Resolution host)) : (runProgram host arguments).Silent := by
  rw [call.runProgram_eq]
  apply CommandResult.Silent.written
  rw [runCommand]
  dsimp only
  split
  · exact ⟨by simp, rfl⟩
  · next level leveled =>
    rw [runResolve]
    split
    · exact CommandResult.silent_misuse
    · next read readable =>
      rw [call.unhelped read readable, if_neg Bool.false_ne_true]
      split
      · next limit template limited single =>
        split
        · next stopped => exact silent_of_envOverrides stopped
        · next overrides collected =>
          rw [CommandContext.resolve]
          split
          · exact CommandContext.silent_failing _ _
          · next world opened =>
            exact absurd ⟨level, read, limit, template, overrides, world, _, leveled, readable, limited, single,
              collected, opened, Context.resolve_eq_expand _ _ (one_le_of_passLimit? limited) _⟩ unresolved
      · exact CommandResult.silent_misuse

/-- A call that succeeds has come to a value. -/
theorem nonempty_of_success (call : ResolveCall arguments) (succeeded : (runProgram host arguments).exitCode = 0) :
    Nonempty (call.Resolution host) := by
  by_contra unresolved
  exact (silent_of_unresolved unresolved).failed succeeded

theorem output_of_success (resolution : call.Resolution host) (succeeded : (runProgram host arguments).exitCode = 0) :
    (runProgram host arguments).output = host.printer resolution.value := by
  cases writing : encodeFault? (host.printer resolution.value).toList with
  | none => rw [runProgram_of_writable resolution writing]; rfl
  | some fault => exact absurd succeeded (silent_of_unwritable resolution writing).failed

/-- A call that fails writes nothing for the next program. -/
theorem output_of_failure (call : ResolveCall arguments) (failed : (runProgram host arguments).exitCode ≠ 0) :
    (runProgram host arguments).output = "" := by
  by_cases resolved : Nonempty (call.Resolution host)
  · obtain ⟨resolution⟩ := resolved
    cases writing : encodeFault? (host.printer resolution.value).toList with
    | none => exact absurd (by rw [runProgram_of_writable resolution writing]; rfl) failed
    | some fault => exact (silent_of_unwritable resolution writing).empty
  · exact (silent_of_unresolved resolved).empty

/-- The arguments of the command for a template, with overrides and a bound on passes. What comes after two dashes is
a template, however it begins. -/
def commanded (items : List String) (bound template : String) : List String :=
  (items.flatMap fun item => ["--env", item]) ++ ["--max-passes", bound, "--", template]

/-- The arguments of the program for a template, with overrides, a bound on passes, and a level of messages. -/
def spelled (level : LogLevel) (items : List String) (bound template : String) : List String :=
  "--log-level" :: level.name :: "resolve" :: commanded items bound template

/-- An option is read with the argument after it as its value. -/
theorem readArguments?_valued {options : List CommandOption} {mixed : Bool} {name value : String} {rest : List String}
    (dashed : name ≠ "--" ∧ (name.startsWith "-" && name ≠ "-") = true)
    (valued : readOption options (some value) name.toList = some ([⟨name, value⟩], true)) :
    readArguments? options mixed (name :: value :: rest) =
      (readArguments? options mixed rest).map fun read => { read with given := ⟨name, value⟩ :: read.given } := by
  rw [readArguments?, if_neg dashed.1, if_pos dashed.2, List.head?_cons, valued]
  rfl

theorem readArguments?_commanded (items : List String) (bound template : String) :
    readArguments? resolveOptions true (commanded items bound template) =
      some { given := items.map (⟨"--env", ·⟩) ++ [⟨"--max-passes", bound⟩], others := [template] } := by
  induction items with
  | nil =>
    have verbatim : readArguments? resolveOptions true ["--", template] = some { others := [template] } := by
      rw [readArguments?, if_pos rfl]
    rw [commanded, List.flatMap_nil, List.nil_append, readArguments?_valued (by simp) rfl, verbatim]
    rfl
  | cons item items ih =>
    have onward : commanded (item :: items) bound template = "--env" :: item :: commanded items bound template := rfl
    rw [onward, readArguments?_valued (by simp) rfl, ih]
    rfl

theorem readArguments?_front (level : LogLevel) (items : List String) (bound template : String) :
    readArguments? programOptions false (spelled level items bound template) = some
      { given := [⟨"--log-level", level.name⟩],
        others := "resolve" :: commanded items bound template } := by
  have command (rest : List String) :
      readArguments? programOptions false ("resolve" :: rest) = some { others := "resolve" :: rest } := by
    simp [readArguments?]
  rw [spelled, readArguments?_valued (by simp) rfl, command]
  rfl

/-- Every template can be asked for, with every list of overrides, every spelling of a bound and every level. -/
def ofSpelled (level : LogLevel) (items : List String) (bound template : String) :
    ResolveCall (spelled level items bound template) where
  options := _
  rest := _
  front := readArguments?_front level items bound template
  working := rfl
  command := rfl
  unhelped := by
    intro read given
    rw [readArguments?_commanded] at given
    cases given
    simp [Arguments.has]

theorem level?_ofSpelled (level : LogLevel) (items : List String) (bound template : String) :
    (ofSpelled level items bound template).level? = some level := by
  have named : LogLevel.ofName? level.name = some level := by cases level <;> rfl
  exact named

theorem exists_spelled (level : LogLevel) (items : List String) (bound template : String) :
    ∃ (call : ResolveCall (spelled level items bound template)) (read : Arguments),
      call.level? = some level ∧ readArguments? resolveOptions true call.rest = some read ∧
      read.values "--env" = items ∧ read.value? "--max-passes" = some bound ∧ read.others = [template] := by
  refine ⟨ofSpelled level items bound template, _, level?_ofSpelled level items bound template,
    readArguments?_commanded items bound template, ?_, ?_, rfl⟩
  · simp [Arguments.values, List.filter_map, Function.comp_def]
  · simp [Arguments.value?, Arguments.values]

end ResolveCall

/-- A session on a host with nothing on it. -/
def bareWorld : World :=
  World.enforce { logging := true, folders := [⟨"/", ⟨.absolute, []⟩⟩], readings := filesRead } Layers.empty

theorem load_bare : World.load { logging := true } [⟨.absolute, []⟩] = .ok bareWorld := by
  have real : Host.resolve {} ⟨.absolute, []⟩ = .ok ⟨.absolute, []⟩ := Host.resolve_linkless nofun nofun rfl
  have folder : Folder.atPath {} ⟨.absolute, []⟩ = .ok ⟨"/", ⟨.absolute, []⟩⟩ := by
    rw [Folder.atPath, real]
    rfl
  have project : Host.projectPath? {} ⟨.absolute, []⟩ = .ok none := by
    rw [Host.projectPath?, real]
    rfl
  have read : Host.fileLayers {} filesRead (some ⟨.absolute, []⟩) =
      .ok [(.machine, []), (.user, []), (.project, [])] := by
    rw [Host.fileLayers, project]
    rfl
  simp only [World.load, List.mapM_cons, List.mapM_nil, folder, pure, bind, Except.pure, Except.bind, List.head?_cons,
    Option.map_some, Nat.zero_add, read]
  rfl

/-- A call of the program that has a template resolved writes the value of the template and a line end for the next
program if it succeeds, and nothing if it does not, whatever kept it from a value. What is logged goes to the user: on
success that is the passes, at the level below all others. Calls that differ in their level only write the same for
the next program. What is written is what the host's printer makes of the value. That is the value as it is, unless it
holds the code of a picture or a character that a terminal shows in another way, provided that the printer writes
verbatim, for which the terminal has to be wide enough for every line. Only half of a surrogate pair keeps a value from
being written. Every template can be asked for, with every list of overrides and at every level. -/
theorem runProgram_prints_value (host : Host) :
    (∀ {arguments : List String} (call : ResolveCall arguments),
      ((runProgram host arguments).exitCode = 0 → Nonempty (call.Resolution host)) ∧
      ((runProgram host arguments).exitCode ≠ 0 → (runProgram host arguments).output = "") ∧
      ∀ resolution : call.Resolution host,
        (encodeFault? (host.printer resolution.value).toList = none → (runProgram host arguments).exitCode = 0) ∧
        ((runProgram host arguments).exitCode = 0 →
          (runProgram host arguments).output = host.printer resolution.value ∧
          (PrintsVerbatim host.printer → ¬HoldsPicture resolution.value.toList →
            (∀ c ∈ resolution.value.toList, isReshown c = false) →
            (runProgram host arguments).output = resolution.value ++ "\n") ∧
          (runProgram host arguments).diagnostics = String.ofList (escapeSurrogates resolution.trace.toList) ∧
          (resolution.level ≠ .trace → (runProgram host arguments).diagnostics = ""))) ∧
    (∀ {arguments others : List String} (call : ResolveCall arguments) (other : ResolveCall others),
      call.rest = other.rest → call.roots host = other.roots host →
      (runProgram host arguments).exitCode = 0 → (runProgram host others).exitCode = 0 →
      (runProgram host arguments).output = (runProgram host others).output) ∧
    ∀ level items bound template,
      ∃ (call : ResolveCall (ResolveCall.spelled level items bound template)) (read : Arguments),
        call.level? = some level ∧ readArguments? resolveOptions true call.rest = some read ∧
        read.values "--env" = items ∧ read.value? "--max-passes" = some bound ∧ read.others = [template] := by
  refine ⟨fun call => ⟨call.nonempty_of_success, call.output_of_failure, fun resolution => ?_⟩,
    fun call other rest roots success success' => ?_, ResolveCall.exists_spelled⟩
  · cases writing : encodeFault? (host.printer resolution.value).toList with
    | some fault =>
      exact ⟨nofun, fun succeeded => absurd succeeded (ResolveCall.silent_of_unwritable resolution writing).failed⟩
    | none =>
      rw [ResolveCall.runProgram_of_writable resolution writing]
      refine ⟨fun _ => rfl, fun _ => ⟨rfl, fun verbatim => verbatim resolution.value, rfl, fun above => ?_⟩⟩
      dsimp only
      rw [resolution.trace_of_ne above]
      rfl
  · obtain ⟨resolution⟩ := call.nonempty_of_success success
    obtain ⟨resolution'⟩ := other.nonempty_of_success success'
    rw [ResolveCall.output_of_success resolution success, ResolveCall.output_of_success resolution' success',
      resolution.value_eq resolution' rest roots]

/-- A template with text in square brackets, and an override for the name in it. -/
def bracketed (level : LogLevel) : (ResolveCall.ofSpelled level ["N=b"] "3" "[a] $\x7bN\x7d").Resolution {} where
  level := level
  read := _
  limit := 3
  template := _
  overrides := [("N", .text "b")]
  world := bareWorld
  value := "[a] b"
  leveled := ResolveCall.level?_ofSpelled _ _ _ _
  readable := ResolveCall.readArguments?_commanded _ _ _
  limited := rfl
  single := rfl
  collected := rfl
  opened := load_bare
  resolved := by
    have value : bareWorld.context.expand [("N", .text "b")] 3 "[a] $\x7bN\x7d" = "[a] b" := by decide +kernel
    rw [Context.resolve_eq_expand _ _ (by decide), value]

/-- Brackets in a value are no markup, and the value is the same when its passes are told. -/
theorem runProgram_prints_value_bracketed :
    encodeFault? (printed "[a] b").toList = none ∧ PrintsVerbatim printed ∧
    ¬HoldsPicture (bracketed .info).value.toList ∧
    (∀ c ∈ (bracketed .info).value.toList, isReshown c = false) ∧ (bracketed .info).level ≠ .trace ∧
    (runProgram {} (ResolveCall.spelled .info ["N=b"] "3" "[a] $\x7bN\x7d")).exitCode = 0 ∧
    (runProgram {} (ResolveCall.spelled .info ["N=b"] "3" "[a] $\x7bN\x7d")).output = "[a] b\n" ∧
    (runProgram {} (ResolveCall.spelled .info ["N=b"] "3" "[a] $\x7bN\x7d")).diagnostics = "" ∧
    (runProgram {} (ResolveCall.spelled .trace ["N=b"] "3" "[a] $\x7bN\x7d")).output = "[a] b\n" := by
  have writable : encodeFault? (printed "[a] b").toList = none := by rfl
  have verbatim := printsVerbatim_printed
  have kept : ∀ c ∈ (bracketed .info).value.toList, isReshown c = false := by
    simp [bracketed, isReshown, isTerminalControl]
  have free : ¬HoldsPicture (bracketed .info).value.toList := by
    rintro ⟨before, code, after, whole, _⟩
    have colon : ':' ∈ (bracketed .info).value.toList := by rw [whole]; simp
    exact absurd colon (by decide)
  have above : (bracketed .info).level ≠ .trace := by decide
  obtain ⟨calls, alike, _⟩ := runProgram_prints_value {}
  have succeeded (level : LogLevel) := ((calls _).2.2 (bracketed level)).1 writable
  obtain ⟨_, plain, _, quiet⟩ := ((calls _).2.2 (bracketed .info)).2 (succeeded .info)
  have told := alike (ResolveCall.ofSpelled .trace ["N=b"] "3" "[a] $\x7bN\x7d")
    (ResolveCall.ofSpelled .info ["N=b"] "3" "[a] $\x7bN\x7d") rfl rfl (succeeded .trace) (succeeded .info)
  exact ⟨writable, verbatim, free, kept, above, succeeded .info, plain verbatim free kept, quiet above,
    told.trans (plain verbatim free kept)⟩

theorem readArguments?_picture :
    readArguments? programOptions false ["resolve", ":x:"] = some { others := ["resolve", ":x:"] } ∧
    readArguments? resolveOptions true [":x:"] = some { others := [":x:"] } := by
  simp [readArguments?]

/-- A call with the code of a picture for a template. -/
def pictureCall : ResolveCall ["resolve", ":x:"] where
  options := _
  rest := _
  front := readArguments?_picture.1
  working := rfl
  command := rfl
  unhelped := by
    intro read given
    rw [readArguments?_picture.2] at given
    cases given
    rfl

def pictureResolution : pictureCall.Resolution {} where
  level := .info
  read := _
  limit := defaultPasses
  template := _
  overrides := []
  world := bareWorld
  value := ":x:"
  leveled := rfl
  readable := readArguments?_picture.2
  limited := rfl
  single := rfl
  collected := rfl
  opened := load_bare
  resolved := by
    have value : bareWorld.context.expand [] defaultPasses ":x:" = ":x:" := by decide +kernel
    rw [Context.resolve_eq_expand _ _ (by decide), value]

/-- A value that is the code of a picture is not written as it is, but as the picture. -/
theorem runProgram_prints_value_picture :
    (runProgram {} ["resolve", ":x:"]).exitCode = 0 ∧ pictureResolution.value = ":x:" ∧
      (runProgram {} ["resolve", ":x:"]).output = "❌\n" ∧
      (runProgram {} ["resolve", ":x:"]).output ≠ pictureResolution.value ++ "\n" := by
  have picture : printed pictureResolution.value = "❌\n" := by rfl
  have writable : encodeFault? (printed pictureResolution.value).toList = none := by rw [picture]; rfl
  have ran := ResolveCall.runProgram_of_writable pictureResolution writable
  have output : (runProgram {} ["resolve", ":x:"]).output = "❌\n" := by
    rw [ran]
    exact picture
  refine ⟨by rw [ran]; rfl, rfl, output, ?_⟩
  rw [output]
  decide

end LayeredSettings

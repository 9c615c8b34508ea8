import LayeredSettings.Proofs.Session.Layering

namespace LayeredSettings

namespace Host

/-- The settings of the project a directory belongs to, none if it belongs to none. -/
def projectSettings (host : Host) (reading : Nat) (directory : Option Path) :
    Except Failure (List (Scalar × Value)) :=
  match directory with
  | none => .ok []
  | some start =>
    match host.projectPath? start with
    | .error f => .error f
    | .ok none => .ok []
    | .ok (some p) => host.settingsOfFile reading p

/-- There are no settings in a file that does not exist. -/
theorem settingsOfFile_of_missing {host : Host} {p : Path} (missing : host.exists? p = .ok false) (reading : Nat) :
    host.settingsOfFile reading p = .ok [] := by
  simp only [exists?, Tree.exists?] at missing
  unfold settingsOfFile
  cases found : host.tree.find host.directory p with
  | ok place => simp [found] at missing
  | error fault => cases fault <;> simp [found] at missing ⊢

/-- Files are read all together: the reading fails just if one of the three does. -/
theorem fileLayers_cases (host : Host) (reading : Nat) (directory : Option Path) :
    (∃ f, host.fileLayers reading directory = .error f ∧
      (host.settingsOfFile reading host.machinePath = .error f ∨
        host.settingsOfFile (reading + 1) host.userPath = .error f ∨
        host.projectSettings (reading + 2) directory = .error f)) ∨
    ∃ machine user own, host.settingsOfFile reading host.machinePath = .ok machine ∧
      host.settingsOfFile (reading + 1) host.userPath = .ok user ∧
      host.projectSettings (reading + 2) directory = .ok own ∧
      host.fileLayers reading directory = .ok [(.machine, machine), (.user, user), (.project, own)] := by
  cases machine : host.settingsOfFile reading host.machinePath <;>
    cases user : host.settingsOfFile (reading + 1) host.userPath <;>
    simp only [fileLayers, projectSettings, Bind.bind, Except.bind, Pure.pure, Except.pure, machine, user] <;>
    cases directory with
    | none => simp
    | some start =>
      cases place : host.projectPath? start with
      | error f => simp [place]
      | ok found =>
        cases found with
        | none => simp [place]
        | some p => cases own : host.settingsOfFile (reading + 2) p <;> simp [place, own]

end Host

/-- One unknown name refuses all layers, wherever it stands. -/
theorem namedLayers_unknown {layers : List (String × List (Scalar × Value))} {name : String}
    (member : name ∈ layers.map Prod.fst) (unknown : Layer.ofName? name = none) :
    ∃ first ∈ layers.map Prod.fst, Layer.ofName? first = none ∧
      namedLayers layers = .error (.unknownLayer first) := by
  induction layers with
  | nil => simp at member
  | cons entry rest ih =>
    obtain ⟨own, data⟩ := entry
    cases known : Layer.ofName? own with
    | none => exact ⟨own, by simp, known, by simp only [namedLayers, Layer.named, known]⟩
    | some layer =>
      have later : name ∈ rest.map Prod.fst := by
        rcases List.mem_cons.mp member with rfl | later
        · rw [known] at unknown
          cases unknown
        · exact later
      obtain ⟨first, there, unknown, refused⟩ := ih later
      exact ⟨first, List.mem_cons_of_mem _ there, unknown, by simp only [namedLayers, Layer.named, known, refused]⟩

namespace World

/-- What a reload finds in the file of a layer. The layer of the values set at run time has none. -/
def fileSettings (w : World) : Layer → Except Failure (List (Scalar × Value))
  | .machine => w.host.settingsOfFile (w.readings + filesRead) w.host.machinePath
  | .user => w.host.settingsOfFile (w.readings + filesRead + 1) w.host.userPath
  | .project => w.host.projectSettings (w.readings + filesRead + 2) w.projectDirectory
  | .memory => .ok []

/-- There is no settings file for a layer. -/
def Lacks (w : World) : Layer → Prop
  | .machine => w.host.exists? w.host.machinePath = .ok false
  | .user => w.host.exists? w.host.userPath = .ok false
  | .project => ∀ directory, w.projectDirectory = some directory → w.host.projectPath? directory = .ok none
  | .memory => True

theorem fileSettings_of_lacks {w : World} {layer : Layer} (lacks : w.Lacks layer) : w.fileSettings layer = .ok [] := by
  cases layer with
  | machine | user => exact Host.settingsOfFile_of_missing lacks _
  | project =>
    simp only [fileSettings, Host.projectSettings]
    cases project : w.projectDirectory with
    | none => rfl
    | some directory => simp only [lacks directory project]
  | memory => rfl

theorem fileLayers_of_failing {w : World} {layer : Layer} {f : Failure} (failed : w.fileSettings layer = .error f) :
    ∃ layer' f', w.fileSettings layer' = .error f' ∧
      w.host.fileLayers (w.readings + filesRead) w.projectDirectory = .error f' := by
  rcases w.host.fileLayers_cases (w.readings + filesRead) w.projectDirectory with
    ⟨f', refused, own | own | own⟩ | ⟨machine, user, own, read, read', read'', _⟩
  · exact ⟨.machine, f', own, refused⟩
  · exact ⟨.user, f', own, refused⟩
  · exact ⟨.project, f', own, refused⟩
  · cases layer with
    | machine => cases read.symm.trans failed
    | user => cases read'.symm.trans failed
    | project => cases read''.symm.trans failed
    | memory => cases failed

/-- The layers that have settings files, with the data of those. -/
def filedLayers (data : Layer → List (Scalar × Value)) : List (Layer × List (Scalar × Value)) :=
  [.machine, .user, .project].map fun layer => (layer, data layer)

theorem fileLayers_of_read {w : World} {data : Layer → List (Scalar × Value)}
    (read : ∀ layer, w.fileSettings layer = .ok (data layer)) :
    w.host.fileLayers (w.readings + filesRead) w.projectDirectory = .ok (filedLayers data) := by
  rcases w.host.fileLayers_cases (w.readings + filesRead) w.projectDirectory with
    ⟨f, _, own | own | own⟩ | ⟨machine, user, own, first, second, third, all⟩
  · cases own.symm.trans (read .machine)
  · cases own.symm.trans (read .user)
  · cases own.symm.trans (read .project)
  · cases first.symm.trans (read .machine)
    cases second.symm.trans (read .user)
    cases third.symm.trans (read .project)
    exact all

/-- What layers come to when those of the settings files are put in their places. -/
theorem get_replaced (layers : Layers) (data : Layer → List (Scalar × Value)) (layer : Layer) :
    (layers.replace (filedLayers data)).get layer =
      if layer = .memory then layers.memory else flatten "" (data layer) := by
  cases layer <;> rfl

/-- The layer without a file holds no data that could not be taken apart. -/
theorem mem_filedLayers {w : World} {data : Layer → List (Scalar × Value)}
    (read : ∀ layer, w.fileSettings layer = .ok (data layer)) {layer : Layer} {fault : ValueFault}
    (found : entriesFault? (data layer) = some fault) : (layer, data layer) ∈ filedLayers data := by
  cases layer with
  | machine | user | project => simp [filedLayers]
  | memory =>
    have none : data .memory = [] := by
      have own := read .memory
      simp only [fileSettings, Except.ok.injEq] at own
      exact own.symm
    rw [none] at found
    cases found

theorem flatMap_notification_settings (w : World) (keys : List String) :
    (w.notification .settings (.keys keys)).flatMap Frame.announced =
      if (w.registry .settings).closed then [] else [keys] := by
  simp only [notification]
  split <;> simp [Frame.announced]

end World

namespace Machine

variable {m next : Machine} {v : Value} {action : Action} {actions : List Action} {rest : List Frame}

theorem step_of_perform (mode : m.mode = .answered v) (stack : m.stack = .actions (action :: actions) :: rest) :
    m.step? = some ⟨(m.world.perform action).world, (m.world.perform action).mode,
      (m.world.perform action).frames ++ .actions actions :: rest⟩ := by
  rw [step?_of_stack stack]
  simp [outcome, mode, World.resume]

/-- A step that neither puts layers in force nor tears them leaves layers and settings. -/
theorem layers_kept_step (step : m.step? = some next) (puts : m.puts? = none) (torn : m.torn? = none) :
    next.world.layers = m.world.layers ∧ next.world.settings = m.world.settings := by
  refine ⟨by rw [layers_step step, puts, torn]; rfl, ?_⟩
  rcases context_step step with ⟨_, context⟩ | ⟨after, alters, _⟩
  · exact World.settings_of_context context
  · rw [alters_eq, puts] at alters
    cases alters

theorem Onward.layers_kept {first : Machine} {during : List Machine} (path : first.Onward during m)
    (quiet : ∀ passed ∈ during, passed.puts? = none ∧ passed.torn? = none) :
    m.world.layers = first.world.layers ∧ m.world.settings = first.world.settings := by
  induction path with
  | start => exact ⟨rfl, rfl⟩
  | @step past m next _ step ih =>
    obtain ⟨layers, settings⟩ := ih fun passed member => quiet passed (List.mem_cons_of_mem _ member)
    obtain ⟨puts, torn⟩ := quiet m (List.mem_cons_self ..)
    obtain ⟨layers', settings'⟩ := layers_kept_step step puts torn
    exact ⟨layers'.trans layers, settings'.trans settings⟩
  | act _ _ _ ih => exact ih fun passed member => quiet passed (List.mem_cons_of_mem _ member)

/-- Layers and settings stay where no step on the way puts layers in force or tears them. -/
theorem Above.layers_kept {depth : Nat} {first : Machine} {during : List Machine} (path : Above depth first during m)
    (quiet : ∀ passed ∈ during, passed.puts? = none ∧ passed.torn? = none) :
    m.world.layers = first.world.layers ∧ m.world.settings = first.world.settings ∧
      ∀ passed ∈ during, ∀ after, passed.step? = some after → after.announced <:+ passed.announced := by
  refine ⟨(path.onward.layers_kept quiet).1, (path.onward.layers_kept quiet).2, fun passed member after moved => ?_⟩
  exact announced_step moved (by rw [alters_eq, (quiet passed member).1]; rfl)

/-- The layers of settings files are put in force together, and what has changed is announced once
at most. -/
theorem reload_step (mode : m.mode = .answered v) (stack : m.stack = .actions (.reload :: actions) :: rest)
    {data : Layer → List (Scalar × Value)} (read : ∀ layer, m.world.fileSettings layer = .ok (data layer))
    (fine : ∀ layer, entriesFault? (data layer) = none) :
    ∃ next above told, m.step? = some next ∧ next.stack = above ++ .actions actions :: rest ∧
      (∀ layer, next.world.layers.get layer =
        if layer = .memory then m.world.layers.memory else flatten "" (data layer)) ∧
      next.world.settings = next.world.layers.effective ∧ next.world.registry = m.world.registry ∧
      next.announced = told ++ m.announced ∧ told.length ≤ 1 := by
  let read' : World := { m.world with readings := m.world.readings + filesRead }
  let layers := m.world.layers.replace (World.filedLayers data)
  have performed : m.world.perform .reload = read'.change layers := by
    simp only [World.perform, World.fileLayers_of_read read, World.replaceLayers]
    simp [fine, World.filedLayers, read', layers]
  have step := step_of_perform mode stack
  rw [performed] at step
  have replaced (layer : Layer) := World.get_replaced m.world.layers data layer
  have before : m.announced = rest.flatMap Frame.announced := by simp [announced, stack, Frame.announced]
  rcases read'.change_cases layers with ⟨_, same⟩ | ⟨_, same⟩
  · rw [same] at step
    exact ⟨_, [], [], step, rfl, replaced, rfl, rfl, by simp [announced, stack, Frame.announced], by simp⟩
  · rw [same] at step
    let frames := if (changedKeys read'.settings layers.effective).isEmpty then [] else
      read'.notification .settings (.keys (changedKeys read'.settings layers.effective))
    refine ⟨_, frames, frames.flatMap Frame.announced, step, rfl, replaced, rfl, rfl, ?_, ?_⟩
    · rw [before]
      simp [announced, frames, Frame.announced]
    · simp only [frames]
      split
      · simp
      · rw [World.flatMap_notification_settings]
        split <;> simp

/-- Where the data of a file cannot be taken apart, the layers of the files before it have been replaced
all the same, and nothing comes into force. -/
theorem tearing_step (mode : m.mode = .answered v) (stack : m.stack = .actions (.reload :: actions) :: rest)
    {data : Layer → List (Scalar × Value)} (read : ∀ layer, m.world.fileSettings layer = .ok (data layer))
    {layer : Layer} {fault : ValueFault} (found : entriesFault? (data layer) = some fault) :
    ∃ next first, m.step? = some next ∧ next.mode = .failing (.valueFault first) ∧
      next.stack = .actions actions :: rest ∧ next.world.settings = m.world.settings ∧
      next.world.registry = m.world.registry ∧ next.world.layers = m.world.layers.replace
        ((World.filedLayers data).takeWhile fun layer => (entriesFault? layer.2).isNone) := by
  obtain ⟨first, faulty⟩ : ∃ first, (World.filedLayers data).findSome? (fun layer => entriesFault? layer.2) =
      some first := by
    rw [← Option.isSome_iff_exists, List.findSome?_isSome_iff]
    exact ⟨_, World.mem_filedLayers read found, by rw [found]; rfl⟩
  have step := step_of_perform mode stack
  simp only [World.perform, World.fileLayers_of_read read, World.replaceLayers, faulty] at step
  exact ⟨_, first, step, rfl, rfl, rfl, rfl, rfl⟩

/-- A reload that cannot read a file, and layers of which one has an unknown name, leave everything as it
is. Files that can be read, those that there are not without any settings, are put in force together,
and what has changed is announced once at most, as long as nothing that is told of it replaces layers
itself. But if the data of a file cannot be taken apart, the layers of the files before it have been
replaced, and nothing comes into force. -/
theorem reload_whole (mode : m.mode = .answered v) (stack : m.stack = .actions (action :: actions) :: rest) :
    (∀ layers, action = .setLayers layers → ∀ name ∈ layers.map Prod.fst, Layer.ofName? name = none →
      ∃ first ∈ layers.map Prod.fst, Layer.ofName? first = none ∧
        m.step? = some ⟨m.world, .failing (.unknownLayer first), .actions actions :: rest⟩) ∧
    (action = .reload → (∀ layer, m.world.Lacks layer → m.world.fileSettings layer = .ok []) ∧
      (∀ layer f, m.world.fileSettings layer = .error f → ∃ other f', m.world.fileSettings other = .error f' ∧
        m.step? = some ⟨m.world, .failing f', .actions actions :: rest⟩) ∧
      ∀ data : Layer → List (Scalar × Value), (∀ layer, m.world.fileSettings layer = .ok (data layer)) →
        (∀ layer fault, entriesFault? (data layer) = some fault →
          ∃ next first, m.step? = some next ∧ next.mode = .failing (.valueFault first) ∧
            next.stack = .actions actions :: rest ∧ next.world.settings = m.world.settings ∧
            next.world.registry = m.world.registry ∧ next.world.layers = m.world.layers.replace
              ((World.filedLayers data).takeWhile fun layer => (entriesFault? layer.2).isNone)) ∧
        ((∀ layer, entriesFault? (data layer) = none) →
          ∃ next above told, m.step? = some next ∧ next.stack = above ++ .actions actions :: rest ∧
            (∀ layer, next.world.layers.get layer =
              if layer = .memory then m.world.layers.memory else flatten "" (data layer)) ∧
            next.world.settings = next.world.layers.effective ∧ next.world.registry = m.world.registry ∧
            next.announced = told ++ m.announced ∧ told.length ≤ 1 ∧
            ∀ during last, Above (rest.length + 1) next during last →
              (∀ passed ∈ during, passed.puts? = none ∧ passed.torn? = none) →
              last.world.layers = next.world.layers ∧ last.world.settings = next.world.settings ∧
              ∀ passed ∈ during, ∀ after, passed.step? = some after →
                after.announced <:+ passed.announced)) := by
  refine ⟨?_, fun own => ?_⟩
  · rintro layers rfl name member unknown
    obtain ⟨first, there, unknown, refused⟩ := namedLayers_unknown member unknown
    refine ⟨first, there, unknown, ?_⟩
    rw [step_of_perform mode stack]
    simp only [World.perform, refused, List.nil_append]
  · subst own
    refine ⟨fun layer => World.fileSettings_of_lacks, fun layer f failed => ?_, fun data read =>
      ⟨fun layer fault found => tearing_step mode stack read found, fun fine => ?_⟩⟩
    · obtain ⟨other, f', own, refused⟩ := World.fileLayers_of_failing failed
      refine ⟨other, f', own, ?_⟩
      rw [step_of_perform mode stack]
      simp only [World.perform, refused, List.nil_append]
    · obtain ⟨next, above, told, step, stacked, layers, inForce, registry, announced, once⟩ :=
        reload_step mode stack read fine
      exact ⟨next, above, told, step, stacked, layers, inForce, registry, announced, once,
        fun during last path quiet => path.layers_kept quiet⟩

end Machine

/-- A host with a settings file for all users and one for one user. -/
def filedHost (machine user : String) : Host where
  tree := (Tree.insert {} ["machine", "settings.yml"] (.file machine.toUTF8.toList)).insert
    ["user", "settings.yml"] (.file user.toUTF8.toList)

/-- What a reload finds in the file of a layer, nothing if it cannot be read. -/
def World.filed (w : World) (layer : Layer) : List (Scalar × Value) := (w.fileSettings layer).toOption.getD []

theorem World.fileSettings_eq_filed {w : World} {layer : Layer}
    (read : (w.fileSettings layer).toOption.isSome = true) : w.fileSettings layer = .ok (w.filed layer) :=
  eq_ok_of_isSome _ [] read

/-- Somebody listens while the files of a host are reloaded. -/
def reloading (host : Host) : Machine :=
  ((({ host } : World).doing (.onSettings "told" [] [])).play 9 [] []).2.world.doing .reload

/-- What two files hold is put in force together and announced once. -/
theorem reload_whole_filed : ∃ (next last : Machine) (during : List Machine),
    (reloading (filedHost "a: 1" "b: 2")).step? = some next ∧ next.Above 1 during last ∧
    last.stack = [.actions []] ∧ last.world.layers = next.world.layers ∧
    last.world.settings = next.world.layers.effective ∧ Entries.keys last.world.settings = ["a", "b"] ∧
    next.announced = [["a", "b"]] := by
  let m := reloading (filedHost "a: 1" "b: 2")
  have read : (Layer.all.all fun layer => (m.world.fileSettings layer).toOption.isSome) = true := by decide +kernel
  have fine : (Layer.all.all fun layer => (entriesFault? (m.world.filed layer)).isNone) = true := by decide +kernel
  have member (layer : Layer) : layer ∈ Layer.all := by cases layer <;> decide
  rw [List.all_eq_true] at read fine
  obtain ⟨_, reloads⟩ := @Machine.reload_whole m .null .reload [] [] rfl rfl
  obtain ⟨_, _, files⟩ := reloads rfl
  obtain ⟨_, whole⟩ := files m.world.filed fun layer => World.fileSettings_eq_filed (read layer (member layer))
  obtain ⟨next, _, _, step, stacked, _, inForce, _, _, _, kept⟩ :=
    whole fun layer => Option.isNone_iff_eq_none.mp (fine layer (member layer))
  have now : (m.step?.map fun next => (next.announced, (next.back 1 9 []).2.stack.length,
      Entries.keys (next.back 1 9 []).2.world.settings,
      (next.back 1 9 []).1.all fun passed => passed.puts?.isNone && passed.torn?.isNone)) =
        some ([["a", "b"]], 1, ["a", "b"], true) := by decide +kernel
  simp only [step, Option.map_some, Option.some.injEq, Prod.mk.injEq] at now
  obtain ⟨told, ended, keys, quiet⟩ := now
  obtain ⟨during, last, path, found⟩ : ∃ during last, next.Above 1 during last ∧
      next.back 1 9 [] = (during, last) := ⟨_, _, Machine.Above.start.back 9, rfl⟩
  rw [found] at ended keys quiet
  obtain ⟨others, stack⟩ := path.suffix _ stacked (Nat.le_refl 1)
  obtain ⟨same, still, _⟩ := kept during last path fun passed member => by
    simpa using List.all_eq_true.mp quiet passed member
  have all : others = [] := by
    rw [stack] at ended
    simpa using ended
  subst all
  exact ⟨next, last, during, step, path, stack, same, still.trans inForce, keys, told⟩

/-- Where the first file holds a mapping that lies in itself, the second one is read as well but its layer is not
replaced, and the settings in force are those from before. -/
theorem reload_whole_torn : ∃ next, (reloading (filedHost "x: &m\n  k: *m" "b: 2")).step? = some next ∧
    (∀ layer, ((reloading (filedHost "x: &m\n  k: *m" "b: 2")).world.fileSettings layer).toOption.isSome) ∧
    next.stack.length = 1 ∧
    Entries.keys (flatten "" ((reloading (filedHost "x: &m\n  k: *m" "b: 2")).world.filed .user)) = ["b"] ∧
    Entries.keys next.world.layers.user = [] ∧ Entries.keys next.world.settings = [] := by
  have now : ((reloading (filedHost "x: &m\n  k: *m" "b: 2")).step?.map fun next => (next.stack.length,
      Entries.keys next.world.layers.user, Entries.keys next.world.settings)) = some (1, [], []) := by
    decide +kernel
  obtain ⟨next, step, found⟩ := Option.map_eq_some_iff.mp now
  simp only [Prod.mk.injEq] at found
  obtain ⟨ended, user, settings⟩ := found
  refine ⟨next, step, fun layer => ?_, ended, ?_, user, settings⟩
  · cases layer <;> decide +kernel
  · decide +kernel

end LayeredSettings

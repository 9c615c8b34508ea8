import LayeredSettings.Placeholder.Resolve
import LayeredSettings.Session.World

namespace LayeredSettings

/-- How the last step ended: with an answer, or with a failure on its way to whoever
can take it. -/
inductive Mode where
  | answered (v : Value)
  | failing (f : Failure)

/-- What is still to be done, the innermost first: the rest of some actions, the end of
an attempt, the rest of a notification, the loop that updates a live record, the
reaction of a live record to a change of settings, the making and the leaving of a live
record, the leaving of a subscription with what is answered then, and what comes out of
a release when all that is done on it has been. The loop knows whether the reading to
come was asked for while it ran. -/
inductive Frame where
  | actions (rest : List Action)
  | attempting
  | notify (signal : Signal) (event : Event) (rest : List Nat)
  | updating (live : Nat) (queued : Bool)
  | following (live : Nat)
  | making (live : Nat)
  | leaving (live : Nat)
  | releasing (handle : Nat) (shown : Value)
  | ending (mode : Mode)

/-- A session in the course of an action. -/
structure Machine where
  world : World
  mode : Mode
  stack : List Frame

/-- What an action does at once, and what it leaves to be done. -/
structure Outcome where
  world : World
  mode : Mode := .answered .null
  frames : List Frame := []

namespace World

/-- The notification of the subscriptions there are now, none if the signal is
closed. -/
def notification (w : World) (signal : Signal) (event : Event) : List Frame :=
  let registry := w.registry signal
  if registry.closed then [] else [.notify signal event registry.handles]

/-- Puts new layers in force. The keys whose value differs are notified, if that can be
told. -/
def change (w : World) (layers : Layers) : Outcome :=
  let before := w.settings
  let w := w.enforce layers
  let keys := changedKeys before w.settings
  if neverDiffer before w.settings then { world := w, mode := .failing (.valueFault .endless) }
  else if keys.isEmpty then { world := w }
  else { world := w, frames := w.notification .settings (.keys keys) }

/-- Replaces whole layers. Where the data of one cannot be taken apart, those before it
are replaced all the same, but no change comes into force. -/
def replaceLayers (w : World) (data : List (Layer × List (Scalar × Value))) : Outcome :=
  match data.findSome? fun layer => entriesFault? layer.2 with
  | none => w.change (w.layers.replace data)
  | some fault =>
    let before := data.takeWhile fun layer => (entriesFault? layer.2).isNone
    { world := { w with layers := w.layers.replace before }, mode := .failing (.valueFault fault) }

/-- Asks for a live record to be read anew: at once, or after the update that is
going on. A closed one is left as it is. -/
def requestUpdate (w : World) (index : Nat) : World × List Frame :=
  let live := w.live index
  if live.closed then (w, [])
  else if live.updating then (w.setLive index { live with pending := true }, [])
  else (w.setLive index { live with updating := true, pending := true }, [.updating index false])

/-- Ends the update of a live record. -/
def endUpdate (w : World) (index : Nat) : World :=
  w.setLive index { w.live index with updating := false, pending := false }

/-- Reports a failed reading to the log and to those who listen for failures. -/
def reportFailure (w : World) (index : Nat) (f : Failure) : World × List Frame :=
  let w := w.logAll [{ level := .error, text := escapeMarkup f.message }]
  (w, w.notification (.failures index) (.failure f))

/-- Makes a record the last one of a live record and notifies it. -/
def publish (w : World) (index : Nat) (r : OverrideRecord) : World × List Frame :=
  let live := w.live index
  let w := w.setLive index { live with record := r, published := live.published + 1 }
  let count := (w.registry (.changes index)).handles.length
  let w := w.logAll [{ level := .debug, text := jsonObject r.fields, plain := true },
    { level := .debug, text := s!"Notifying {count} settings subscriber(s)" }]
  (w, w.notification (.changes index) (.record r))

/-- Makes a live record that follows the settings and reads it for the first time. -/
def makeLive (w : World) : World × List Frame :=
  let index := w.lives.length
  let live : Live := { watch := w.nextHandle }
  let w := w.subscribe .settings (.live index)
  let (w, frames) := { w with lives := w.lives ++ [live] }.requestUpdate index
  (w, frames ++ [.making index])

def textReply (s : Option String) : Value := (s.map Value.text).getD .null

def folderReply (folder : Folder) : Value := .list [.text folder.name, .text folder.path.text]

/-- The real place of a path, or the path itself if links run in a circle. -/
def place (w : World) (p : Path) : List String :=
  match w.host.tree.resolve w.host.directory p with
  | .ok real => real.parts
  | .error real => real.parts

def setNode (w : World) (p : Path) (node : Option Node) : World :=
  let tree := match node with
    | some node => w.host.tree.insert (w.place p) node
    | none => w.host.tree.erase (w.place p)
  { w with host := { w.host with tree } }

/-- What an action does for the current live record, if there is one. -/
def forCurrent (w : World) (act : Nat → Outcome) : Outcome :=
  match w.current with
  | some index => act index
  | none => { world := w, mode := .answered (.text "no settings") }

/-- What an action does for the handle of a name, if there is one. -/
def forHandle (w : World) (name : String) (act : Nat → Outcome) : Outcome :=
  match w.names.get? name with
  | some handle => act handle
  | none => { world := w, mode := .answered (.text "no such id") }

/-- Releases a handle and does what is to be done then. It comes out in a given way, unless
that fails. -/
def letGo (w : World) (handle : Nat) (mode : Mode) : Outcome :=
  match w.parting handle with
  | [] => { world := w.release handle, mode }
  | actions => { world := w.release handle, frames := [.actions actions, .ending mode] }

/-- The first effect of an action. -/
def perform (w : World) : Action → Outcome
  | .subscribe name calls => { world := w.subscribeAs name .plain (.handler name [] calls) }
  | .subscribeShared names =>
    { world := names.foldl (fun w name => w.subscribeAs name .plain (.handler "same" [] [])) w }
  | .holdFor name logged parting =>
    let holding := Holding.alone (if logged then some name else none) parting
    { world := (w.addHandle ⟨!logged, holding⟩).bind name w.nextHandle }
  | .fire v => { world := w, frames := w.notification .plain (.value v) }
  | .closeSignal => { world := w.close .plain }
  | .release name => w.forHandle name fun handle => w.letGo handle (.answered .null)
  | .within name body => w.forHandle name fun handle =>
    { world := w, frames := [.actions body, .releasing handle (.scalar (.bool (w.isReleased handle)))] }
  | .fail f => { world := w, mode := .failing f }
  | .attempt body => { world := w, frames := [.actions body, .attempting] }
  | .openLive =>
    let (w, frames) := w.makeLive
    { world := w, frames }
  | .withLive body =>
    let index := w.lives.length
    let (w, frames) := w.makeLive
    { world := w, frames := frames ++ [.actions body, .leaving index] }
  | .onChange name calls => w.forCurrent fun index =>
    { world := w.subscribeAs name (.changes index) (.handler name [] calls) }
  | .onFailure name calls => w.forCurrent fun index =>
    { world := w.subscribeAs name (.failures index) (.handler name [] calls) }
  | .onSettings name sections calls =>
    { world := w.subscribeAs name .settings (.handler name sections calls) }
  | .turnTo index =>
    if index < w.lives.length then { world := { w with current := some index } }
    else { world := w, mode := .answered (.text "no settings") }
  | .refresh => w.forCurrent fun index =>
    let (w, frames) := w.requestUpdate index
    { world := w, frames }
  | .closeLive => w.forCurrent fun index => { world := w.closeLive index }
  | .update key value =>
    match entryFault? value with
    | some fault => { world := w, mode := .failing (.valueFault fault) }
    | none => w.change (w.layers.update key value)
  | .setLayers layers =>
    match namedLayers layers with
    | .error f => { world := w, mode := .failing f }
    | .ok data => w.replaceLayers data
  | .reload =>
    let reading := w.readings + filesRead
    match w.host.fileLayers reading w.projectDirectory with
    | .error f => { world := w, mode := .failing f }
    | .ok data => { w with readings := reading }.replaceLayers data
  | .closeSettings => { world := w.close .settings }
  | .get key default => { world := w, mode := .answered ((w.settings.lookup? key).getD default) }
  | .getIn outer key default =>
    { world := w, mode := .answered ((w.settings.lookup? (outer ++ "." ++ key)).getD default) }
  | .keys =>
    let keys := w.settings.keys.mergeSort fun a b => a ≤ b
    { world := w, mode := .answered (.list (keys.map Value.text)) }
  | .layer name =>
    match Layer.named name with
    | .error f => { world := w, mode := .failing f }
    | .ok layer =>
      let entries := (w.layers.get layer).map fun entry => (Scalar.text entry.1, entry.2)
      { world := w, mode := .answered (.map entries) }
  | .folders => { world := w, mode := .answered (.list (w.folders.map folderReply)) }
  | .projectDirectory =>
    { world := w, mode := .answered (textReply (w.projectDirectory.map Path.text)) }
  | .resolve template =>
    match w.context.resolve [] defaultPasses template with
    | .error f => { world := w, mode := .failing f }
    | .ok s => { world := w, mode := .answered (textReply s) }
  | .write p content => { world := w.setNode p (some (.file content)) }
  | .delete p => { world := w.setNode p none }

/-- How a live record reacts to a change of settings: it is read anew if the change
touches the tool's settings. -/
def follow (w : World) (index : Nat) (event : Event) : World × List Frame :=
  match event with
  | .keys keys =>
    if !(w.live index).closed && affects keys toolSection then
      let (w, frames) := w.requestUpdate index
      (w, frames ++ [.following index])
    else (w, [])
  | _ => (w, [])

/-- Calls the listener of a subscription. -/
def call (w : World) (handle : Nat) (event : Event) : World × List Frame :=
  match w.handles[handle]? with
  | some ⟨released, .subscription signal (.handler name sections calls)⟩ =>
    let rest := Listener.handler name sections (calls.drop 1)
    let w := { w with handles := w.handles.set handle ⟨released, .subscription signal rest⟩ }
    (w.note (.notified name sections event), [.actions (calls.headD [])])
  | some ⟨_, .subscription _ (.live index)⟩ => w.follow index event
  | _ => (w, [])

/-- One turn of the loop that updates a live record. A reading that fails is the
failure of whoever asked for the first one, and is reported if it was asked for
while the loop ran. -/
def turn (w : World) (index : Nat) (queued : Bool) : Outcome :=
  let live := w.live index
  if live.pending && !live.closed then
    let w := w.setLive index { live with pending := false }
    let (result, messages) := readOverride w.settings w.context
    let w := w.logAll messages
    match result with
    | .ok r =>
      let (w, frames) := w.publish index r
      { world := w, frames := frames ++ [.updating index true] }
    | .error f =>
      if queued && f.isOfSettings then
        let (w, frames) := w.reportFailure index f
        { world := w, frames := frames ++ [.updating index true] }
      else { world := w.endUpdate index, mode := .failing f }
  else { world := w.endUpdate index }

/-- What remains of a frame when all inside it has been done. -/
def resume (w : World) (v : Value) : Frame → Outcome
  | .actions [] => { world := w, mode := .answered v }
  | .actions (action :: rest) =>
    let outcome := w.perform action
    { outcome with frames := outcome.frames ++ [.actions rest] }
  | .attempting => { world := w }
  | .notify _ _ [] => { world := w }
  | .notify signal event (handle :: rest) =>
    if w.isReleased handle then { world := w, frames := [.notify signal event rest] }
    else
      let (w, frames) := w.call handle event
      { world := w, frames := frames ++ [.notify signal event rest] }
  | .updating index queued => w.turn index queued
  | .following _ => { world := w }
  | .making index => { world := { w with current := some index } }
  | .leaving index => { world := w.closeLive index }
  | .releasing handle shown => w.letGo handle (.answered shown)
  | .ending mode => { world := w, mode }

/-- What a frame does with a failure of something inside it. An attempt takes it, and so
does a live record that follows the settings, if it is one of the settings. A
subscription that is left lets it pass, unless something fails on its release. -/
def unwind (w : World) (f : Failure) : Frame → Outcome
  | .actions _ | .notify .. => { world := w, mode := .failing f }
  | .attempting => { world := w }
  | .updating index _ => { world := w.endUpdate index, mode := .failing f }
  | .following index =>
    if f.isOfSettings then
      let (w, frames) := w.reportFailure index f
      { world := w, frames }
    else { world := w, mode := .failing f }
  | .making index => { world := w.closeLive index, mode := .failing f }
  | .leaving index => { world := w.closeLive index, mode := .failing f }
  | .releasing handle _ => w.letGo handle (.failing f)
  | .ending _ => { world := w, mode := .failing f }

end World

namespace Machine

/-- One step: the innermost frame goes on, or takes the failure that has reached it.
Nothing is left to do when the stack is empty. -/
def step? (m : Machine) : Option Machine :=
  match m.stack with
  | [] => none
  | frame :: rest =>
    let outcome := match m.mode with
      | .answered v => m.world.resume v frame
      | .failing f => m.world.unwind f frame
    some ⟨outcome.world, outcome.mode, outcome.frames ++ rest⟩

end Machine

end LayeredSettings

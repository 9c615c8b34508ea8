import LayeredSettings.Files.Load
import LayeredSettings.Session.Action
import LayeredSettings.Store.Change
import LayeredSettings.Store.Naming

namespace LayeredSettings

/-- A record of overrides that follows the settings: the last one read, how many
were published, whether one is being read or notified now, whether another
reading has been asked for, and whether it has been closed. -/
structure Live where
  record : OverrideRecord := {}
  published : Nat := 0
  updating : Bool := false
  pending : Bool := false
  closed : Bool := false
  watch : Nat
  deriving Inhabited

/-- What the log of a session holds. -/
inductive Entry where
  | notified (name : String) (sections : List String) (event : Event)
  | released (name : String)
  | message (m : LogMessage)

/-- All that a session consists of. The settings in force are those of the layers, unless
the last change of the layers failed. -/
structure World where
  layers : Layers := .empty
  settings : Flat := []
  folders : List Folder := []
  environment : Entries String String := []
  platform : String := "linux"
  host : Host := {}
  readings : Nat := 0
  logging : Bool := false
  registry : Signal → Registry := fun _ => {}
  handles : List Handle := []
  names : Entries String Nat := []
  lives : List Live := []
  current : Option Nat := none
  log : List Entry := []

namespace World

/-- Puts layers in force. -/
def enforce (w : World) (layers : Layers) : World := { w with layers, settings := layers.effective }

def context (w : World) : Context :=
  { environment := w.environment, settings := [w.settings], folders := w.folders, platform := w.platform }

def projectDirectory (w : World) : Option Path := w.folders.head?.map Folder.path

def note (w : World) (entry : Entry) : World := { w with log := w.log ++ [entry] }

/-- Logs messages, if there is a logger. -/
def logAll (w : World) (messages : List LogMessage) : World :=
  if w.logging then { w with log := w.log ++ messages.map .message } else w

def setRegistry (w : World) (signal : Signal) (r : Registry) : World :=
  { w with registry := fun s => if s = signal then r else w.registry s }

def live (w : World) (index : Nat) : Live := w.lives.getD index default

def setLive (w : World) (index : Nat) (live : Live) : World :=
  { w with lives := w.lives.set index live }

/-- The handle made next. -/
def nextHandle (w : World) : Nat := w.handles.length

def addHandle (w : World) (handle : Handle) : World := { w with handles := w.handles ++ [handle] }

def isReleased (w : World) (handle : Nat) : Bool :=
  match w.handles[handle]? with
  | some h => h.released
  | none => true

/-- Subscribes a listener. A closed signal gives a handle that is released already. -/
def subscribe (w : World) (signal : Signal) (listener : Listener) : World :=
  let registry := w.registry signal
  let handle := w.nextHandle
  let w := w.addHandle ⟨registry.closed, .subscription signal listener⟩
  if registry.closed then w else w.setRegistry signal (registry.add handle)

/-- Lets a name stand for a handle. -/
def bind (w : World) (name : String) (handle : Nat) : World :=
  { w with names := w.names.put name handle }

def subscribeAs (w : World) (name : String) (signal : Signal) (listener : Listener) : World :=
  (w.subscribe signal listener).bind name w.nextHandle

/-- What is to be done when a handle is released. -/
def parting (w : World) (handle : Nat) : List Action :=
  match w.handles[handle]? with
  | some h => h.parting
  | none => []

theorem parting_of_some {w : World} {handle : Nat} {h : Handle} (found : w.handles[handle]? = some h) :
    w.parting handle = h.parting := by
  simp only [parting, found]

theorem parting_of_none {w : World} {handle : Nat} (none : w.handles[handle]? = none) : w.parting handle = [] := by
  simp only [parting, none]

/-- Releases a handle, once. -/
def release (w : World) (handle : Nat) : World :=
  match w.handles[handle]? with
  | none => w
  | some h =>
    if h.released then w
    else
      let w := { w with handles := w.handles.set handle { h with released := true } }
      match h.holding with
      | .subscription signal _ => w.setRegistry signal ((w.registry signal).remove handle)
      | .alone (some name) _ => w.note (.released name)
      | .alone none _ => w

/-- Closes a signal: all its subscriptions are released, and it notifies no more. -/
def close (w : World) (signal : Signal) : World :=
  if (w.registry signal).closed then w
  else
    let handles := (w.registry signal).handles
    let w := w.setRegistry signal { w.registry signal with closed := true }
    let w := handles.foldl release w
    w.setRegistry signal (w.registry signal).close

/-- Closes a live record: it follows the settings no longer and notifies no more. -/
def closeLive (w : World) (index : Nat) : World :=
  let live := w.live index
  if live.closed then w
  else
    let w := w.setLive index { live with closed := true }
    ((w.release live.watch).close (.changes index)).close (.failures index)

end World

end LayeredSettings

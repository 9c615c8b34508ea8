import LayeredSettings.Session.Signal

namespace LayeredSettings

/-- What a program does at one moment. A handler is given by what it does at each of
its calls, and does nothing at later ones; `calls` below holds these lists. `holdFor`
makes a subscription to no signal, with what is done when it is released, and `within`
does some actions and then releases a subscription, also if they fail. `attempt` does
some actions up to the first that fails, and `turnTo` makes another live record the
current one. -/
inductive Action where
  | subscribe (name : String) (calls : List (List Action))
  | subscribeShared (names : List String)
  | holdFor (name : String) (logged : Bool) (parting : List Action)
  | fire (v : Value)
  | closeSignal
  | release (name : String)
  | within (name : String) (body : List Action)
  | fail (failure : Failure)
  | attempt (body : List Action)
  | openLive
  | withLive (body : List Action)
  | onChange (name : String) (calls : List (List Action))
  | onFailure (name : String) (calls : List (List Action))
  | onSettings (name : String) (sections : List String) (calls : List (List Action))
  | turnTo (live : Nat)
  | refresh
  | closeLive
  | update (key : String) (value : Value)
  | setLayers (layers : List (String × List (Scalar × Value)))
  | reload
  | closeSettings
  | get (key : String) (default : Value)
  | getIn (outer key : String) (default : Value)
  | keys
  | layer (name : String)
  | folders
  | projectDirectory
  | resolve (template : Option String)
  | write (path : Path) (content : List UInt8)
  | delete (path : Path)

/-- A subscription to no signal, which at most leaves a note in the log. -/
def Action.hold (name : String) (logged : Bool) : Action := .holdFor name logged []

/-- Enters a subscription and leaves it at once. -/
def Action.enclose (name : String) : Action := .within name []

mutual

/-- The number of actions in an action, itself and those of its handlers and body
included. -/
def Action.weight : Action → Nat
  | .subscribe _ calls => callsWeight calls + 1
  | .onChange _ calls => callsWeight calls + 1
  | .onFailure _ calls => callsWeight calls + 1
  | .onSettings _ _ calls => callsWeight calls + 1
  | .holdFor _ _ parting => actionsWeight parting + 1
  | .within _ body => actionsWeight body + 1
  | .attempt body => actionsWeight body + 1
  | .withLive body => actionsWeight body + 1
  | .subscribeShared _ | .fire _ | .closeSignal | .release _ | .fail _ | .openLive | .turnTo _ | .refresh | .closeLive | .update .. | .setLayers _ | .reload
  | .closeSettings | .get .. | .getIn .. | .keys | .layer _ | .folders | .projectDirectory
  | .resolve _ | .write .. | .delete _ => 1

def actionsWeight : List Action → Nat
  | [] => 0
  | action :: rest => action.weight + actionsWeight rest

def callsWeight : List (List Action) → Nat
  | [] => 0
  | actions :: rest => actionsWeight actions + callsWeight rest

end

/-- Who is notified: a handler with a name for the log, the sections it asks about,
and what it does at its calls to come; or a live record that follows the settings. -/
inductive Listener where
  | handler (name : String) (sections : List String) (calls : List (List Action))
  | live (index : Nat)

namespace Listener

def weight : Listener → Nat
  | .handler _ _ calls => callsWeight calls
  | .live _ => 0

end Listener

/-- What a handle stands for: a subscription to a signal, or one that belongs to none.
When that one is released, it may leave a note in the log and have some actions done. -/
inductive Holding where
  | subscription (signal : Signal) (listener : Listener)
  | alone (name : Option String) (parting : List Action)

/-- A handle, which is released once and for all. -/
structure Handle where
  released : Bool
  holding : Holding

namespace Handle

/-- What is to be done when a handle is released: nothing, once it has been. -/
def parting : Handle → List Action
  | ⟨false, .alone _ actions⟩ => actions
  | _ => []

def weight (h : Handle) : Nat :=
  match h.holding with
  | .subscription _ listener => listener.weight
  | .alone .. => actionsWeight h.parting

end Handle

end LayeredSettings

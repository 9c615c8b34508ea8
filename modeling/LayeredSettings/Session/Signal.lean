import LayeredSettings.Override.Reading

namespace LayeredSettings

/-- The sources of notifications: a plain one, the settings in force, and for each
live record its changes and the failures to read it. -/
inductive Signal where
  | plain
  | settings
  | changes (live : Nat)
  | failures (live : Nat)
  deriving DecidableEq, Repr

/-- What is notified. -/
inductive Event where
  | value (v : Value)
  | keys (keys : List String)
  | record (r : OverrideRecord)
  | failure (f : Failure)

/-- What a signal knows of its subscriptions: their handles in the order they were
made, and whether it has been closed. -/
structure Registry where
  handles : List Nat := []
  closed : Bool := false
  deriving DecidableEq, Repr, Inhabited

namespace Registry

def add (r : Registry) (handle : Nat) : Registry := { r with handles := r.handles ++ [handle] }

def remove (r : Registry) (handle : Nat) : Registry :=
  { r with handles := r.handles.filter (· ≠ handle) }

def close (r : Registry) : Registry := { r with handles := [], closed := true }

end Registry

end LayeredSettings

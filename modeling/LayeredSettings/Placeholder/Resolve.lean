import LayeredSettings.Failure
import LayeredSettings.Placeholder.Pass

namespace LayeredSettings

/-- A bound on passes, which must allow at least one. -/
def passBound (limit : Int) : Except Failure Nat :=
  if limit < 1 then .error (.passLimit limit) else .ok limit.toNat

namespace Context

/-- The result of each pass over a template. -/
def passes? (context : Context) (overrides : Entries String EnvOverride) (limit : Int)
    (template : String) : Except Failure (List String) :=
  match passBound limit with
  | .error failure => .error failure
  | .ok bound => .ok (context.passes overrides bound template)

/-- Resolves a template that may be absent. The absent and the empty template are
left alone, whatever the bound. -/
def resolve (context : Context) (overrides : Entries String EnvOverride) (limit : Int) :
    Option String → Except Failure (Option String)
  | none => .ok none
  | some template =>
    if template = "" then .ok (some template)
    else match passBound limit with
      | .error failure => .error failure
      | .ok bound => .ok (some (context.expand overrides bound template))

/-- The value of a name under a tag. -/
def lookupTagged (context : Context) (overrides : Entries String EnvOverride) (whole : Bool)
    (tag name : String) : Except Failure (Option String) :=
  match Source.ofTag? tag with
  | some source => .ok (context.lookup? overrides whole ⟨source, name⟩)
  | none => .error (.unknownSource tag)

end Context

end LayeredSettings

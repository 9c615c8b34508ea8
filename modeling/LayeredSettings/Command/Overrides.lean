import LayeredSettings.Placeholder.Context

namespace LayeredSettings

/-- A name and the value after its first equals sign. -/
def namedValue? (item : String) : Option (String × String) :=
  match item.toList.dropWhile (· ≠ '=') with
  | [] => none
  | _ :: value => some (String.ofList (item.toList.takeWhile (· ≠ '=')), String.ofList value)

/-- Adds a value under a name. A second value under one name makes a list. -/
def addOverride (overrides : Entries String EnvOverride) (name value : String) :
    Entries String EnvOverride :=
  overrides.put name (match overrides.get? name with
    | some (.text first) => .texts [first, value]
    | some (.texts items) => .texts (items ++ [value])
    | _ => .text value)

/-- The overrides that items name, or the first item that is no name and value. -/
def collectOverrides (overrides : Entries String EnvOverride) :
    List String → Except String (Entries String EnvOverride)
  | [] => .ok overrides
  | item :: rest =>
    match namedValue? item with
    | none => .error item
    | some (name, value) => collectOverrides (addOverride overrides name value) rest

end LayeredSettings

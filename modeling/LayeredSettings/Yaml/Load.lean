import LayeredSettings.Yaml.Build
import LayeredSettings.Yaml.Node

namespace LayeredSettings

namespace Yaml

/-- What the nodes of a document have been read as, by one reading. -/
structure Reading where
  made : Array (Option Made)
  number : Nat

namespace Reading

def isMap (r : Reading) (n : Nat) : Bool :=
  match r.made[n]? with
  | some (some (.map _)) => true
  | _ => false

/-- The collection a node is, seen from inside it, if it is one of those that a place lies
in. A tuple in between is no node of its own. -/
def enclosing? (r : Reading) (path : List (Option Nat)) (n : Nat) : Option Value :=
  (path.findIdx? (· = some n)).map fun level => .enclosing ⟨level, r.isMap n, r.number⟩

/-- The values of nodes that hold no collection seen from inside, as far as they are known.
Such a node has the same value in every place, so that one that stands in many places
is built once. -/
abbrev Known := StateM (Array (Option Value))

/-- The value of a node in a place, and whether it holds no collection seen from inside. The
collections around the place are all different, so that no more than the number of
nodes lie in one another. -/
def valueAt (r : Reading) (fuel : Nat) (path : List (Option Nat)) (n : Nat) : Known (Value × Bool) := do
  match fuel with
  | 0 => return (.null, false)
  | fuel + 1 =>
    match r.enclosing? path n, ((← get)[n]?).join with
    | some v, _ => return (v, false)
    | none, some v => return (v, true)
    | none, none =>
      let path := some n :: path
      let (v, whole) ← match (r.made[n]?).join with
        | some (.scalar s) => pure (Value.scalar s, true)
        | some (.list items) => do
          let parts ← items.mapM (r.valueAt fuel path)
          pure (.list (parts.map Prod.fst), parts.all Prod.snd)
        | some (.pairs entries) => do
          let parts ← entries.mapM fun entry => do
            let (key, wholeKey) ← r.valueAt fuel (none :: path) entry.1
            let (value, wholeValue) ← r.valueAt fuel (none :: path) entry.2
            return (Value.tuple [key, value], wholeKey && wholeValue)
          pure (.list (parts.map Prod.fst), parts.all Prod.snd)
        | some (.map entries) => do
          let parts ← entries.mapM fun entry => do
            let (value, whole) ← r.valueAt fuel path entry.2
            return ((entry.1, value), whole)
          pure (.map (parts.map Prod.fst), parts.all Prod.snd)
        | some (.set items) => pure (.set items, true)
        | none => pure (.null, true)
      if whole then modify fun known => known.setIfInBounds n (some v)
      return (v, whole)

/-- The value of a node of settings, `path` being the maps around it. Maps in maps are
sections, and what is no map is a setting, a value that is whole without them. -/
def settingAt (r : Reading) (fuel : Nat) (path : List (Option Nat)) (n : Nat) : Known Value := do
  match fuel with
  | 0 => return .null
  | fuel + 1 =>
    match (r.made[n]?).join with
    | some (.map entries) =>
      match r.enclosing? path n with
      | some v => return v
      | none =>
        return .map (← entries.mapM fun entry =>
          return (entry.1, ← r.settingAt fuel (some n :: path) entry.2))
    | _ => return (← r.valueAt (r.made.size + 1) [] n).1

end Reading

end Yaml

/-- What gives the value of the only document in a text. The number tells one reading from
another. -/
abbrev Loader := Nat → List Char → Except YamlFault Value

/-- The value of the only document in a text, null if there is none. `reading` tells
one reading from another. -/
def loadYaml (reading : Nat) (s : List Char) : Except YamlFault Value := do
  let (graph, root) ← Yaml.Graph.ofTokens? (Yaml.Token.ofText s)
  match root with
  | none => return .null
  | some root =>
    let made ← graph.read reading root
    let settings := Yaml.Reading.settingAt ⟨made, reading⟩ (made.size + 1) [] root
    return (settings.run (Array.replicate made.size none)).1

end LayeredSettings

import LayeredSettings.Yaml.Fault
import LayeredSettings.Yaml.Graph

namespace LayeredSettings.Yaml

abbrev Merger := StateT Graph (Except YamlFault)

namespace Merger

/-- Takes the first merge entry out of a map, and gives the node it refers to. -/
def takeMerge? (n : Nat) : Merger (Option Nat) := do
  let graph ← get
  let entries := graph.entriesAt n
  match entries.findIdx? fun entry => graph.tagAt entry.1 = some .merge with
  | none => return none
  | some i =>
    set (graph.setEntries n (entries.eraseIdx i))
    return entries[i]?.map Prod.snd

/-- Reads the marks of default entries among the keys of a map as texts. -/
def plainKeys (n : Nat) : Merger Unit :=
  modify fun graph => (graph.entriesAt n).foldl (fun graph entry => graph.plainKey entry.1) graph

mutual

/-- Puts what a map merges in front of its own entries. A map that is merged into itself
has lost that entry when its entries are taken. -/
def merge (fuel : Nat) (n : Nat) : Merger Unit := do
  match fuel with
  | 0 => throw .malformed
  | fuel + 1 =>
    plainKeys n
    let merged ← mergeFrom fuel n []
    modify fun graph =>
      if merged.isEmpty then graph else graph.setEntries n (merged ++ graph.entriesAt n)

/-- Takes the merge entries out of a map one after the other, and gives what they add
to some entries. -/
def mergeFrom (fuel : Nat) (n : Nat) (merged : List (Nat × Nat)) : Merger (List (Nat × Nat)) := do
  match fuel with
  | 0 => throw .malformed
  | fuel + 1 =>
    match ← takeMerge? n with
    | none => return merged
    | some source =>
      let found ← sources fuel source
      mergeFrom fuel n (merged ++ found)

/-- What a merge entry takes in: the entries of a map, or of a list of maps, where the
first map counts most and so comes last. -/
def sources (fuel : Nat) (n : Nat) : Merger (List (Nat × Nat)) := do
  match fuel with
  | 0 => throw .malformed
  | fuel + 1 =>
    match (← get)[n]? with
    | some (.list _ items) => return (← items.mapM (mapEntries fuel)).reverse.flatten
    | _ => mapEntries fuel n

/-- The entries of a node that has to be a map, those it merges included. -/
def mapEntries (fuel : Nat) (n : Nat) : Merger (List (Nat × Nat)) := do
  match fuel with
  | 0 => throw .malformed
  | fuel + 1 =>
    match (← get)[n]? with
    | some (.map _ _) =>
      merge fuel n
      return (← get).entriesAt n
    | _ => throw .malformed

end

end Merger

/-- Puts what a map of a graph merges in front of its own entries. One of four calls that
lie in one another takes a merge entry out of the graph. -/
def Graph.merged (graph : Graph) (n : Nat) : Except YamlFault Graph :=
  ((Merger.merge (4 * (graph.entryCount + 2)) n).run graph).map Prod.snd

end LayeredSettings.Yaml

import LayeredSettings.Yaml.Tag

namespace LayeredSettings.Yaml

/-- A node of a document before its scalars are read. Its parts are given by their
numbers, so that a node may stand in several places, and a collection in itself. -/
inductive Node where
  | scalar (tag : Tag) (text : List Char)
  | list (tag : Tag) (items : List Nat)
  | map (tag : Tag) (entries : List (Nat × Nat))

namespace Node

def tag : Node → Tag
  | scalar tag _ => tag
  | list tag _ => tag
  | map tag _ => tag

def withTag (tag : Tag) : Node → Node
  | scalar _ text => .scalar tag text
  | list _ items => .list tag items
  | map _ entries => .map tag entries

def entries : Node → List (Nat × Nat)
  | map _ entries => entries
  | _ => []

end Node

/-- The nodes of a document under their numbers, each in front of the nodes it holds. -/
abbrev Graph := Array Node

namespace Graph

def tagAt (graph : Graph) (n : Nat) : Option Tag := graph[n]?.map Node.tag

/-- The entries of a map, none of any other node. -/
def entriesAt (graph : Graph) (n : Nat) : List (Nat × Nat) := (graph[n]?.map Node.entries).getD []

/-- The number of entries of all maps. -/
def entryCount (graph : Graph) : Nat := graph.foldl (fun count node => count + node.entries.length) 0

/-- Gives a map other entries. -/
def setEntries (graph : Graph) (n : Nat) (entries : List (Nat × Nat)) : Graph :=
  match graph[n]? with
  | some node => graph.setIfInBounds n (.map node.tag entries)
  | none => graph

/-- Reads the mark of a default entry as a text like any other. -/
def plainKey (graph : Graph) (n : Nat) : Graph :=
  match graph[n]? with
  | some node => if node.tag = .default then graph.setIfInBounds n (node.withTag .text) else graph
  | none => graph

end Graph

end LayeredSettings.Yaml

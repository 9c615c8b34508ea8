import LayeredSettings.Store.Entries
import LayeredSettings.Yaml.Merge
import LayeredSettings.Yaml.Scalar

namespace LayeredSettings.Yaml

/-- What a node has been read as. The parts of a collection are nodes, but the keys of a
map are scalars. -/
inductive Made where
  | scalar (s : Scalar)
  | list (items : List Nat)
  | pairs (entries : List (Nat × Nat))
  | map (entries : List (Scalar × Nat))
  | set (items : List Scalar)

/-- A document in the course of being read: its nodes, what they have been read as, and the
collections that have been met and not read yet. -/
structure Building where
  graph : Graph
  made : Array (Option Made)
  waiting : List Nat

abbrev Builder := StateT Building (Except YamlFault)

namespace Builder

def malformed : Builder α := throw .malformed

def made? (n : Nat) : Builder (Option Made) := return ((← get).made[n]?).join

def setMade (n : Nat) (made : Made) : Builder Unit :=
  modify fun b => { b with made := b.made.setIfInBounds n (some made) }

/-- Meets a collection, which is read when those met before it have been. -/
def await (n : Nat) (empty : Made) : Builder Unit := do
  setMade n empty
  modify fun b => { b with waiting := b.waiting ++ [n] }

/-- The text of a scalar, or of the default entry of a map that stands for one. -/
def scalarText (graph : Graph) (fuel : Nat) (n : Nat) : Except YamlFault (List Char) :=
  match fuel with
  | 0 => .error (.scalar .endlessDefault)
  | fuel + 1 =>
    match graph[n]? with
    | some (.scalar _ text) => .ok text
    | some (.map _ entries) =>
      match entries.find? fun entry => graph.tagAt entry.1 = some .default with
      | some entry => scalarText graph fuel entry.2
      | none => .error .malformed
    | _ => .error .malformed

/-- Reads a scalar, or a map that stands for one. A moment has to be a scalar itself. -/
def makeScalar (reading n : Nat) (node : Node) : Builder Unit := do
  if node.tag = .unknown || node.tag = .merge || node.tag = .default then malformed
  let graph := (← get).graph
  let text ← scalarText graph (graph.size + 1) n
  match node with
  | .map .moment _ => throw (.scalar .momentOfEntries)
  | _ => setMade n (.scalar (← scalarValue (.fresh reading n) node.tag text))

/-- Reads a node that has not been read yet, as far as it is a scalar. -/
def make (reading n : Nat) : Builder Unit := do
  if (← made? n).isSome then return
  match (← get).graph[n]? with
  | none => malformed
  | some node =>
    match node.tag with
    | .list => await n (.list [])
    | .orderedMap | .pairs => await n (.pairs [])
    | .map => await n (.map [])
    | .set => await n (.set [])
    | _ => makeScalar reading n node

/-- Reads the key of an entry, which has to be a scalar. -/
def makeKey (reading n : Nat) : Builder Scalar := do
  make reading n
  match ← made? n with
  | some (.scalar s) => return s
  | _ => malformed

/-- Reads the entries of a map, after what it merges. A key that comes again keeps its
place and gets the new value. -/
def entriesOf (reading n : Nat) : Builder (List (Scalar × Nat)) := do
  let b ← get
  set { b with graph := ← b.graph.merged n }
  let pairs ← ((← get).graph.entriesAt n).mapM fun entry => do
    let key ← makeKey reading entry.1
    make reading entry.2
    return (key, entry.2)
  return pairs.foldl (fun entries pair => Entries.putBy Scalar.same entries pair.1 pair.2) []

/-- Reads an item of a list of pairs, which is a map of one entry. -/
def pairOf (reading n : Nat) : Builder (Nat × Nat) := do
  match (← get).graph[n]? with
  | some (.map _ [(key, value)]) =>
    make reading key
    make reading value
    return (key, value)
  | _ => malformed

/-- Reads a collection, which has to be of the kind its tag asks for. -/
def fill (reading n : Nat) : Builder Unit := do
  match (← get).graph[n]? with
  | some (.list .list items) =>
    items.forM (make reading)
    setMade n (.list items)
  | some (.list .orderedMap items) => setMade n (.pairs (← items.mapM (pairOf reading)))
  | some (.list .pairs items) => setMade n (.pairs (← items.mapM (pairOf reading)))
  | some (.map .map _) => setMade n (.map (← entriesOf reading n))
  | some (.map .set _) => setMade n (.set ((← entriesOf reading n).map Prod.fst))
  | _ => malformed

/-- Reads the collections that have been met, in the order in which they were. Each node is
met once, so that `count` suffices if it is the number of nodes. -/
def fillAll (reading count : Nat) : Builder Unit := do
  match count, (← get).waiting with
  | _, [] => return
  | 0, _ => malformed
  | count + 1, n :: rest =>
    modify fun b => { b with waiting := rest }
    fill reading n
    fillAll reading count

/-- Reads a whole document from its outermost node on. -/
def readFrom (reading root : Nat) : Builder Unit := do
  make reading root
  fillAll reading (← get).graph.size

end Builder

/-- What the nodes of a document are read as, from its outermost node on. -/
def Graph.read (reading : Nat) (graph : Graph) (root : Nat) : Except YamlFault (Array (Option Made)) :=
  ((Builder.readFrom reading root).run ⟨graph, Array.replicate graph.size none, []⟩).map (·.2.made)

end LayeredSettings.Yaml

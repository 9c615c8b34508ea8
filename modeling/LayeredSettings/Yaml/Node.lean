import LayeredSettings.Yaml.Graph
import LayeredSettings.Yaml.Token

namespace LayeredSettings.Yaml

/-- The tokens that are left, how many collections are open, what the handles of tags
stand for, the nodes that have anchors, and the nodes so far. -/
structure NodeState where
  tokens : List Token
  depth : Nat
  handles : List (List Char × List Char)
  anchors : List (List Char × Nat)
  nodes : Graph

abbrev NodeReader := StateT NodeState (Except YamlFault)

/-- What may stand in front of a node. -/
structure Properties where
  anchor : Option (List Char) := none
  tag : Option TagName := none

namespace NodeReader

def malformed : NodeReader α := throw .malformed

/-- The next token, none at the end of the text. Meeting a fault is failing with it. -/
def next? : NodeReader (Option Token) := do
  match (← get).tokens.head? with
  | some (.fault f) => throw f
  | t => return t

def take : NodeReader Unit := modify fun s => { s with tokens := s.tokens.drop 1 }

def accept (t : Token) : NodeReader Bool := do
  if (← next?) = some t then
    take
    return true
  else return false

def expect (t : Token) : NodeReader Unit := do
  if !(← accept t) then malformed

/-- Whether one of the tokens comes next. -/
def atAny (ts : List Token) : NodeReader Bool := return (← next?).any (ts.contains ·)

def anchor? : NodeReader (Option (List Char)) := do
  match ← next? with
  | some (.anchor name) =>
    take
    return some name
  | _ => return none

def tag? : NodeReader (Option TagName) := do
  match ← next? with
  | some (.tag name) =>
    take
    return some name
  | _ => return none

/-- An anchor and a tag, in either order. -/
def properties : NodeReader Properties := do
  match ← anchor? with
  | some name => return ⟨some name, ← tag?⟩
  | none =>
    match ← tag? with
    | some tag => return ⟨← anchor?, some tag⟩
    | none => return {}

/-- The whole name of a tag. -/
def fullName (name : TagName) : NodeReader (List Char) := do
  match name.handle with
  | none => return name.suffix
  | some handle =>
    match (← get).handles.lookup handle with
    | none => malformed
    | some target => return target ++ name.suffix

/-- The tag a node is given. One without a name of its own says nothing: a scalar goes
by its look then, if it is plain or has such a tag, and all else by its kind. -/
def tagOf (name : Option (List Char)) (kind : Tag) : Tag :=
  match name with
  | none => kind
  | some name => if name = ['!'] then kind else .ofName name

/-- Adds a node and gives its number. -/
def add (node : Node) : NodeReader Nat := do
  let nodes := (← get).nodes
  modify fun s => { s with nodes := s.nodes.push node }
  return nodes.size

/-- Adds a node under its anchor, from which on aliases stand for it. No two nodes have
the same anchor. -/
def addNamed (anchor : Option (List Char)) (node : Node) : NodeReader Nat := do
  match anchor with
  | none => add node
  | some name =>
    if ((← get).anchors.lookup name).isSome then malformed
    let n ← add node
    modify fun s => { s with anchors := (name, n) :: s.anchors }
    return n

def scalarOf (anchor name : Option (List Char)) (plain : Bool) (text : List Char) :
    NodeReader Nat :=
  let look := if plain || name.isSome then Tag.ofLook text else .text
  addNamed anchor (.scalar (tagOf name look) text)

/-- A node that is left out. -/
def absent : NodeReader Nat := scalarOf none none true []

/-- How deep collections may lie in one another. The reader itself has no such limit: that its
stack is used up just here is an assumption about how the program is run. -/
def depthLimit : Nat := 486

/-- Reads what is in a collection. -/
def within (read : NodeReader α) : NodeReader α := do
  if (← get).depth ≥ depthLimit then throw .tooDeep
  modify fun s => { s with depth := s.depth + 1 }
  let parts ← read
  modify fun s => { s with depth := s.depth - 1 }
  return parts

/-- A list, which its items may refer to. -/
def listOf (anchor name : Option (List Char)) (read : NodeReader (List Nat)) : NodeReader Nat := do
  let tag := tagOf name .list
  let n ← addNamed anchor (.list tag [])
  let items ← within read
  modify fun s => { s with nodes := s.nodes.setIfInBounds n (.list tag items) }
  return n

/-- A map, which its entries may refer to. -/
def mapOf (anchor name : Option (List Char)) (read : NodeReader (List (Nat × Nat))) :
    NodeReader Nat := do
  let tag := tagOf name .map
  let n ← addNamed anchor (.map tag [])
  let entries ← within read
  modify fun s => { s with nodes := s.nodes.setIfInBounds n (.map tag entries) }
  return n

/-- A node of which nothing was found but what may stand in front of one. -/
def bare (given : Properties) (name : Option (List Char)) : NodeReader Nat := do
  if given.anchor.isNone && given.tag.isNone then malformed
  scalarOf given.anchor name true []

mutual

/-- A node, which outside of brackets may be a block collection. Where a list need not
be indented further, its items alone make one. -/
def node (fuel : Nat) (block indentless : Bool) : NodeReader Nat := do
  match fuel with
  | 0 => malformed
  | fuel + 1 =>
    match ← next? with
    | some (.alias name) =>
      take
      match (← get).anchors.lookup name with
      | some found => return found
      | none => malformed
    | _ =>
      let given ← properties
      let name ← given.tag.mapM fullName
      content fuel block indentless given name

/-- What follows the properties of a node. -/
def content (fuel : Nat) (block indentless : Bool) (given : Properties)
    (name : Option (List Char)) : NodeReader Nat := do
  match fuel with
  | 0 => malformed
  | fuel + 1 =>
    if ← pure indentless <&&> atAny [.item] then listOf given.anchor name (items fuel false)
    else if ← accept .flowList then listOf given.anchor name (flowItems fuel true)
    else if ← accept .flowMap then mapOf given.anchor name (flowEntries fuel true)
    else if ← pure block <&&> accept .blockList then listOf given.anchor name (items fuel true)
    else if ← pure block <&&> accept .blockMap then mapOf given.anchor name (entries fuel)
    else match ← next? with
      | some (.scalar plain text) =>
        take
        scalarOf given.anchor name plain text
      | _ => bare given name

/-- A node, or an absent one in front of the tokens given. -/
def nodeUnless (fuel : Nat) (stops : List Token) (block indentless : Bool) : NodeReader Nat := do
  match fuel with
  | 0 => malformed
  | fuel + 1 => if ← atAny stops then absent else node fuel block indentless

/-- The items of a block list, to its end if it was indented for itself. -/
def items (fuel : Nat) (closed : Bool) : NodeReader (List Nat) := do
  match fuel with
  | 0 => malformed
  | fuel + 1 =>
    if ← accept .item then
      let stops := if closed then [.item, .blockEnd] else [.item, .key, .value, .blockEnd]
      let item ← nodeUnless fuel stops true false
      return item :: (← items fuel closed)
    else
      if closed then expect .blockEnd
      return []

/-- The entries of a block map, to its end. -/
def entries (fuel : Nat) : NodeReader (List (Nat × Nat)) := do
  match fuel with
  | 0 => malformed
  | fuel + 1 =>
    if ← accept .key then
      let stops := [.key, .value, .blockEnd]
      let key ← nodeUnless fuel stops true true
      let value ← valueUnless fuel stops true
      return (key, value) :: (← entries fuel)
    else
      expect .blockEnd
      return []

/-- The value of an entry, absent if there is no mark for one. -/
def valueUnless (fuel : Nat) (stops : List Token) (block : Bool) : NodeReader Nat := do
  match fuel with
  | 0 => malformed
  | fuel + 1 => if ← accept .value then nodeUnless fuel stops block block else absent

/-- The items of a list in brackets. An entry among them is a map of its own. -/
def flowItems (fuel : Nat) (first : Bool) : NodeReader (List Nat) := do
  match fuel with
  | 0 => malformed
  | fuel + 1 =>
    if ← accept .flowListEnd then return []
    if !first then expect .comma
    if ← accept .key then
      let item ← mapOf none none (flowPair fuel)
      return item :: (← flowItems fuel false)
    else if ← accept .flowListEnd then return []
    else
      let item ← node fuel false false
      return item :: (← flowItems fuel false)

/-- The only entry of a map that is an item of a list in brackets. -/
def flowPair (fuel : Nat) : NodeReader (List (Nat × Nat)) := do
  match fuel with
  | 0 => malformed
  | fuel + 1 =>
    let key ← nodeUnless fuel [.value, .comma, .flowListEnd] false false
    let value ← valueUnless fuel [.comma, .flowListEnd] false
    return [(key, value)]

/-- The entries of a map in braces. A node without a mark for a value is a key. -/
def flowEntries (fuel : Nat) (first : Bool) : NodeReader (List (Nat × Nat)) := do
  match fuel with
  | 0 => malformed
  | fuel + 1 =>
    if ← accept .flowMapEnd then return []
    if !first then expect .comma
    if ← accept .key then
      let key ← nodeUnless fuel [.value, .comma, .flowMapEnd] false false
      let value ← valueUnless fuel [.comma, .flowMapEnd] false
      return (key, value) :: (← flowEntries fuel false)
    else if ← accept .flowMapEnd then return []
    else
      let key ← node fuel false false
      return (key, ← absent) :: (← flowEntries fuel false)

end

/-- The directives in front of a document: a version that can be read, once, and handles,
each once. -/
def directives (versioned : Bool) (handles : List (List Char × List Char)) :
    List Token → NodeReader (List (List Char × List Char))
  | .directive d :: rest => do
    take
    match d with
    | .version major =>
      if versioned || major ≠ 1 then malformed
      directives true handles rest
    | .handle name target =>
      if (handles.lookup name).isSome then malformed
      directives versioned ((name, target) :: handles) rest
    | .other => directives versioned handles rest
  | _ => return handles

def standardHandles : List (List Char × List Char) :=
  [(['!'], ['!']), (['!', '!'], "tag:yaml.org,2002:".toList)]

/-- The start of a document: directives and a mark. -/
def documentStart : NodeReader Unit := do
  let handles ← directives false [] (← get).tokens
  modify fun s => { s with handles := handles ++ standardHandles }
  expect .documentStart

/-- More room than nodes can be nested within a number of tokens: on the way to a node
there are fewer steps than four for each token. -/
def room (tokens : Nat) : Nat := 4 * tokens + 8

/-- The node of a document, after its start if that is marked. -/
def document : NodeReader Nat := do
  match ← next? with
  | some .documentStart | some (.directive _) =>
    documentStart
    match ← next? with
    | none | some .documentStart | some .documentEnd | some (.directive _) => absent
    | _ => node (room (← get).tokens.length) true false
  | _ => node (room (← get).tokens.length) true false

/-- The only document of a text, none if there is nothing in it. -/
def onlyDocument? : NodeReader (Option Nat) := do
  if (← next?).isNone then return none
  let root ← document
  modify fun s => { s with tokens := s.tokens.dropWhile (· = .documentEnd) }
  if (← next?).isSome then
    documentStart
    malformed
  return some root

end NodeReader

/-- The nodes that tokens make up, and the number of the outermost one, if there is
any. -/
def Graph.ofTokens? (tokens : List Token) : Except YamlFault (Graph × Option Nat) :=
  (NodeReader.onlyDocument?.run ⟨tokens, 0, NodeReader.standardHandles, [], #[]⟩).map fun r =>
    (r.2.nodes, r.1)

end LayeredSettings.Yaml

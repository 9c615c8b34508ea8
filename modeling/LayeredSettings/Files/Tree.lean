import LayeredSettings.Files.Path
import LayeredSettings.Store.Entries
import LayeredSettings.Text.Utf8

namespace LayeredSettings

/-- What may be done with a directory: look for a name in it, and read it. -/
structure Access where
  search : Bool := true
  read : Bool := true
  deriving DecidableEq, Repr

/-- What a path can lead to. A locked file is one that may not be read. -/
inductive Node where
  | file (content : List UInt8)
  | locked
  | directory (access : Access := {})
  | link (target : String)
  deriving Repr

/-- A directory tree as the nodes under their full paths, each a list of names from
the root. The root itself is always a directory. -/
structure Tree where
  nodes : Entries (List String) Node := []

/-- Why a path leads to nothing, or why that cannot be told. -/
inductive WalkFault where
  | missing
  | notDirectory
  | denied
  | tooLong
  | tooManyLinks
  deriving DecidableEq, Repr

/-- The most links that are followed on the way to one node. -/
def linkLimit : Nat := 40

/-- The most bytes in one name, and in a whole path. -/
def nameLimit : Nat := 255

def pathLimit : Nat := 4095

namespace Tree

def node? (tree : Tree) (place : List String) : Option Node :=
  if place = [] then some .directory else tree.nodes.get? place

/-- The nodes on the way to a place, made directories where there are none. -/
def makeParents (tree : Tree) (place : List String) : Tree :=
  (List.range place.length).foldl (fun tree n =>
    let folder := place.take n
    if folder = [] ∨ (tree.nodes.get? folder).isSome then tree
    else ⟨tree.nodes.put folder .directory⟩) tree

def insert (tree : Tree) (place : List String) (node : Node) : Tree :=
  ⟨(tree.makeParents place).nodes.put place node⟩

def erase (tree : Tree) (place : List String) : Tree := ⟨tree.nodes.erase place⟩

/-- Walks along names from a directory and gives the place they lead to with its node.
`follow` goes on where a link leads. A directory that may not be searched can be reached, but
nothing in it can. -/
def along (tree : Tree) (follow : List String → List String → Except WalkFault (List String × Node))
    (place : List String) : List String → Except WalkFault (List String × Node)
  | [] =>
    match tree.node? place with
    | some node => .ok (place, node)
    | none => .error .missing
  | name :: rest =>
    match tree.node? place with
    | some (.directory access) =>
      if name = "" then along tree follow place rest
      else if access.search = false then .error .denied
      else if name = "." then along tree follow place rest
      else if name = ".." then along tree follow place.dropLast rest
      else if name.utf8ByteSize > nameLimit then .error .tooLong
      else
        match tree.node? (place ++ [name]) with
        | none => .error .missing
        | some (.link target) =>
          let start := if (Path.ofText target).isAbsolute then [] else place
          follow start (((splitAt '/' target.toList).map String.ofList) ++ rest)
        | some _ => along tree follow (place ++ [name]) rest
    | some _ => .error .notDirectory
    | none => .error .missing

/-- Walks along names and follows links while the budget lasts. -/
def walk (tree : Tree) : Nat → List String → List String → Except WalkFault (List String × Node)
  | 0 => tree.along fun _ _ => .error .tooManyLinks
  | links + 1 => tree.along (walk tree links)

/-- The node a path leads to, read from a working directory. -/
def find (tree : Tree) (directory : List String) (p : Path) : Except WalkFault (List String × Node) :=
  if p.hasNull then .error .missing
  else if p.text.utf8ByteSize > pathLimit then .error .tooLong
  else tree.walk linkLimit (if p.isAbsolute then [] else directory) p.parts

/-- Whether a path leads to something. A path that is too long is a fault, and so is one through
a directory that may not be searched: there is no telling where it leads. -/
def exists? (tree : Tree) (directory : List String) (p : Path) : Except WalkFault Bool :=
  match tree.find directory p with
  | .ok _ => .ok true
  | .error .denied => .error .denied
  | .error .tooLong => .error .tooLong
  | .error _ => .ok false

end Tree

end LayeredSettings

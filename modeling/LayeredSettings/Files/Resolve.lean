import LayeredSettings.Files.Tree

namespace LayeredSettings

/-- What is left to do on the way to a real path: go to a name, or note that a link
has been followed to its end. -/
inductive Hop where
  | name (name : String)
  | settled (link : Path)
  deriving DecidableEq, Repr

/-- The directory around a path as it is written. A relative path may lead out of the
place it is read from. -/
def Path.out (p : Path) : Path :=
  if p.root = .relative ∧ p.parts.getLast?.all (· = "..") then { p with parts := p.parts ++ [".."] }
  else p.parent

namespace Tree

/-- The place some hops lead to if no more links are followed. -/
def lexical (place : List String) : List Hop → List String
  | [] => place
  | .settled _ :: rest => lexical place rest
  | .name name :: rest =>
    if name = "" ∨ name = "." then lexical place rest
    else if name = ".." then lexical place.dropLast rest
    else lexical (place ++ [name]) rest

/-- The place of a path that is read from a working directory. -/
def placeOf (directory : List String) (p : Path) : List String :=
  lexical (if p.isAbsolute then [] else directory) (p.parts.map .name)

/-- Whether the directory at a place, if there is one, may be searched. -/
def searched (tree : Tree) (place : List String) : Bool :=
  match tree.node? place with
  | some (.directory access) => access.search
  | _ => true

/-- Where a link leads that can be looked at: every directory on the way to it, as it is
written, may be searched. -/
def linkAt? (tree : Tree) (directory : List String) (p : Path) : Option String :=
  let around := (List.range p.parts.length).map fun n => placeOf directory { p with parts := p.parts.take n }
  match tree.nodes.get? (placeOf directory p) with
  | some (.link target) => if around.all tree.searched then some target else none
  | _ => none

/-- Follows links along some hops, whether or not there is anything at the places
they lead to. A link that cannot be looked at is a name like others. A link that is met
again, under the same path, while it is being followed ends the search, and the rest is
taken as it is written. At most `budget` links are opened, each of them once under the same
path. -/
def follow (tree : Tree) (directory : List String) (budget : Nat) (seen : Entries Path (Option Path))
    (here : Path) (hops : List Hop) : List String :=
  match hops with
  | [] => placeOf directory here
  | .settled link :: rest => follow tree directory budget (seen.put link (some here)) here rest
  | .name name :: rest =>
    if name = "" ∨ name = "." then follow tree directory budget seen here rest
    else if name = ".." then follow tree directory budget seen here.out rest
    else
      let next : Path := { here with parts := here.parts ++ [name] }
      match tree.linkAt? directory next with
      | some target =>
        match seen.get? next, budget with
        | some (some settled), budget => follow tree directory budget seen settled rest
        | some none, _ => lexical (placeOf directory next) rest
        | none, 0 => lexical (placeOf directory next) rest
        | none, budget + 1 =>
          let start : Path := if (Path.ofText target).isAbsolute then ⟨.absolute, []⟩ else here
          let names := (splitAt '/' target.toList).map fun part => Hop.name (String.ofList part)
          follow tree directory budget (seen.put next none) start (names ++ .settled next :: rest)
      | none => follow tree directory budget seen next rest
termination_by (budget, hops.length)

/-- The real place of a path, read from a working directory. There need be nothing
at that place, but links that run in a circle are a fault, for which the place
reached is given. -/
def resolve (tree : Tree) (directory : List String) (p : Path) : Except Path Path :=
  let start : Path := ⟨if p.isAbsolute then .absolute else .relative, []⟩
  let budget := 2 * tree.nodes.length + p.parts.length
  let real : Path := ⟨.absolute, tree.follow directory budget [] start (p.parts.map .name)⟩
  match tree.find directory real with
  | .error .tooManyLinks => .error real
  | _ => .ok real

/-- Puts a node at a path, wherever the links on the way to its directory lead. -/
def plant (tree : Tree) (p : Path) (node : Node) : Tree :=
  match tree.resolve [] p.parent with
  | .ok real => tree.insert (real.parts ++ [p.name]) node
  | .error real => tree.insert (real.parts ++ [p.name]) node

end Tree

end LayeredSettings

import LayeredSettings.Text.Split

namespace LayeredSettings

/-- How a path begins. Exactly two slashes are a beginning of their own. -/
inductive PathRoot where
  | relative
  | absolute
  | doubled
  deriving DecidableEq, Repr, Inhabited

def PathRoot.text : PathRoot → String
  | .relative => ""
  | .absolute => "/"
  | .doubled => "//"

/-- A path as its beginning and the names between its slashes. Empty names and
single dots are left out when a path is read; double dots stay. -/
structure Path where
  root : PathRoot
  parts : List String
  deriving DecidableEq, Repr, Inhabited

namespace Path

def rootOf : List Char → PathRoot
  | '/' :: '/' :: '/' :: _ => .absolute
  | '/' :: '/' :: _ => .doubled
  | '/' :: _ => .absolute
  | _ => .relative

/-- The names in a path that count. -/
def namesIn (s : String) : List String :=
  ((splitAt '/' s.toList).map String.ofList).filter fun name => name ≠ "" && name ≠ "."

def ofText (s : String) : Path := ⟨rootOf s.toList, namesIn s⟩

def text (p : Path) : String :=
  if p.root = .relative ∧ p.parts = [] then "."
  else p.root.text ++ "/".intercalate p.parts

def isAbsolute (p : Path) : Bool := p.root ≠ .relative

/-- A path read from a place: an absolute one is not moved. -/
def join (base p : Path) : Path :=
  if p.isAbsolute then p else ⟨base.root, base.parts ++ p.parts⟩

def child (p : Path) (name : String) : Path := p.join (ofText name)

/-- The last name of a path, empty where it has none. -/
def name (p : Path) : String := p.parts.getLastD ""

/-- Whether a name holds the null character, which ends names for the machine and so
is never part of one. -/
def hasNull (p : Path) : Bool := p.parts.any fun name => name.toList.contains '\x00'

def parent (p : Path) : Path := { p with parts := p.parts.dropLast }

end Path

end LayeredSettings

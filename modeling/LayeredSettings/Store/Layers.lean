import LayeredSettings.Store.Flat

namespace LayeredSettings

/-- The sources of settings, lowest precedence first: the three settings files
and the values set while the program runs. -/
inductive Layer where
  | machine
  | user
  | project
  | memory
  deriving DecidableEq, Repr

namespace Layer

def all : List Layer := [.machine, .user, .project, .memory]

def name : Layer → String
  | .machine => "machine"
  | .user => "user"
  | .project => "project"
  | .memory => "memory"

def ofName? (name : String) : Option Layer := all.find? fun layer => layer.name = name

end Layer

/-- The settings of each layer. -/
structure Layers where
  machine : Flat
  user : Flat
  project : Flat
  memory : Flat
  deriving Inhabited

namespace Layers

def empty : Layers := ⟨[], [], [], []⟩

def get (layers : Layers) : Layer → Flat
  | .machine => layers.machine
  | .user => layers.user
  | .project => layers.project
  | .memory => layers.memory

def set (layers : Layers) (layer : Layer) (flat : Flat) : Layers :=
  match layer with
  | .machine => { layers with machine := flat }
  | .user => { layers with user := flat }
  | .project => { layers with project := flat }
  | .memory => { layers with memory := flat }

/-- The settings in force: a key has the value of the highest layer that holds
it. -/
def effective (layers : Layers) : Flat :=
  Layer.all.foldl (fun flat layer => flat.merge (layers.get layer)) []

/-- Sets a key at run time. What stood there and inside its section is removed
first, and a null only removes. -/
def update (layers : Layers) (key : String) (value : Value) : Layers :=
  layers.set .memory (((layers.memory).remove key).merge (flattenEntry key value))

/-- Replaces whole layers, one after the other. -/
def replace (layers : Layers) : List (Layer × List (Scalar × Value)) → Layers
  | [] => layers
  | (layer, data) :: rest => replace (layers.set layer (flatten "" data)) rest

end Layers

end LayeredSettings

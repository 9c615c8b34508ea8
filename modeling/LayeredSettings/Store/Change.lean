import LayeredSettings.Store.Layers
import LayeredSettings.Value.Comparison

namespace LayeredSettings

/-- Whether a key has the same value, or none, before and after. -/
def sameAt (before after : Flat) (key : String) : Bool :=
  match before.get? key, after.get? key with
  | some v, some w => v.equal w
  | none, none => true
  | _, _ => false

/-- The keys whose value differs between two maps of settings. -/
def changedKeys (before after : Flat) : List String :=
  before.keys.filter (fun key => !sameAt before after key) ++
    after.keys.filter fun key => (before.get? key).isNone

/-- Whether two maps of settings cannot be told apart because comparing the values of
some key never ends. Only values that lie in themselves are like that: that the stack is deep
enough for all others is assumed, and is no result. -/
def neverDiffer (before after : Flat) : Bool :=
  before.any fun entry => (after.get? entry.1).any entry.2.neverDiffers

/-- Whether a change of `key` touches a section: it is the section, or one of the
two lies inside the other. -/
def touches (sectionKey key : String) : Bool :=
  key = sectionKey || isBelow sectionKey key || isBelow key sectionKey

/-- Whether a change of any of the keys touches a section. -/
def affects (keys : List String) (sectionKey : String) : Bool := keys.any (touches sectionKey)

end LayeredSettings

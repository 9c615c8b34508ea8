import LayeredSettings.Store.Entries
import LayeredSettings.Text.Split
import LayeredSettings.Value.Limit
import LayeredSettings.Value.Literal

namespace LayeredSettings

/-- Settings under their dotted keys. -/
abbrev Flat := Entries String Value

/-- What follows `sectionKey` and a dot in `key`, if `key` lies in that section. -/
def below? (sectionKey key : String) : Option String :=
  let head := sectionKey.toList ++ ['.']
  if head.isPrefixOf key.toList then some (String.ofList (key.toList.drop head.length)) else none

def isBelow (sectionKey key : String) : Bool := (below? sectionKey key).isSome

/-- The dotted key of an entry inside a mapping that stands under `outer`. -/
def joinKey (outer : String) (key : Scalar) : String :=
  if outer = "" then key.keyText else outer ++ "." ++ key.keyText

mutual

/-- Writes the settings of a mapping that stands under `outer` into others. -/
def flattenOnto (outer : String) (flat : Flat) : List (Scalar × Value) → Flat
  | [] => flat
  | (key, value) :: rest => flattenOnto outer (flat.merge (flattenEntry (joinKey outer key) value)) rest

/-- The settings of one value under its key. A null leaves no setting, so it does
not hide one of a lower layer. -/
def flattenEntry (key : String) : Value → Flat
  | .map entries => flattenOnto key [] entries
  | .scalar .null => []
  | value => [(key, value)]

end

/-- The settings of a mapping that stands under `outer`, nested mappings taken
apart. -/
def flatten (outer : String) (entries : List (Scalar × Value)) : Flat :=
  flattenOnto outer [] entries

mutual

/-- What keeps the entries of a mapping from being taken apart, if anything does: a key
that cannot be written, or a mapping that lies in itself. That mappings which end are never
nested too deep for the stack is assumed, and is no result. -/
def entriesFault? : List (Scalar × Value) → Option ValueFault
  | [] => none
  | (key, value) :: rest =>
    if key.isLong then some .tooLong else (entryFault? value).or (entriesFault? rest)

/-- What keeps the value of an entry from being taken apart. -/
def entryFault? : Value → Option ValueFault
  | .map entries => entriesFault? entries
  | .enclosing e => if e.mapping then some .endless else none
  | .scalar _ | .list _ | .tuple _ | .set _ => none

end

namespace Flat

/-- Places a value at a path in nested mappings. What stands in the way and is no
mapping makes room for one. -/
def insertPath : List (List Char) → Value → List (Scalar × Value) → List (Scalar × Value)
  | [], _, node => node
  | [leaf], value, node => Entries.put node (.text (String.ofList leaf)) value
  | part :: rest, value, node =>
    let key := Scalar.text (String.ofList part)
    let child := match Entries.get? node key with
      | some (.map entries) => entries
      | _ => []
    Entries.put node key (.map (insertPath rest value child))

/-- The nested mapping of flat settings. -/
def nest (flat : Flat) : Value :=
  .map (flat.foldl (fun node entry => insertPath (components entry.1.toList) entry.2 node) [])

/-- The settings inside a section, under what remains of their keys. -/
def inSection (flat : Flat) (sectionKey : String) : Flat :=
  flat.filterMap fun entry => (below? sectionKey entry.1).map fun rest => (rest, entry.2)

def nest? (flat : Flat) : Option Value := if flat.isEmpty then none else some flat.nest

/-- The setting of a key, or the nested settings of the section it names. The
empty key names all settings. -/
def lookup? (flat : Flat) (key : String) : Option Value :=
  match flat.get? key with
  | some value => some value
  | none => if key = "" then flat.nest? else (flat.inSection key).nest?

/-- Removes the setting of a key and those inside the section it names. -/
def remove (flat : Flat) (key : String) : Flat :=
  flat.filter fun entry => entry.1 ≠ key && !isBelow key entry.1

end Flat

end LayeredSettings

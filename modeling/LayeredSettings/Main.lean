import LayeredSettings.Command.Run
import LayeredSettings.Files.Standard

namespace LayeredSettings

/-- The place of names in the file system. -/
def placeText (place : List String) : String := "/" ++ "/".intercalate place

/-- What the variables of this program's environment hold. -/
def ownEnvironment : IO (Entries String String) := do
  let bytes ← IO.FS.readBinFile "/proc/self/environ"
  let items := splitAt '\x00' (decodeLossy bytes.toList)
  return (items.filterMap fun item => namedValue? (String.ofList item)).foldl
    (fun all (name, value) => all.put name value) []

/-- Where names lead to without any link, or why they lead nowhere. -/
def realNames? (place : List String) : IO (Except WalkFault (List String)) := do
  try return .ok (Path.namesIn (toString (← IO.FS.realPath (placeText place))))
  catch
    | .permissionDenied .. => return .error .denied
    | _ => return .error .missing

/-- Takes the directories and links into a tree that are found along names, and gives
the place the names lead to. Where there is no telling what a name leads to, the directory
around it may not be searched. -/
def explore (tree : Tree) (place : List String) : List String → IO (Tree × List String)
  | [] => return (tree, place)
  | name :: rest =>
    if name = ".." then explore tree place.dropLast rest
    else do
      let next := place ++ [name]
      match ← realNames? next with
      | .error .denied => return (tree.insert place (.directory { search := false }), next ++ rest)
      | .error _ => return (tree, next ++ rest)
      | .ok real =>
        let tree := if real = next then tree else tree.insert next (.link (placeText real))
        explore (tree.insert real .directory) real rest

/-- Takes a settings file into a tree, if there is one. -/
def exploreFile (tree : Tree) (p : Path) : IO Tree := do
  let (tree, place) ← explore tree [] p.parts
  try return tree.insert place (.file (← IO.FS.readBinFile (placeText place)).toList)
  catch
    | .permissionDenied .. => return tree.insert place .locked
    | _ => return tree

/-- Takes the settings files into a tree that may belong to a folder. -/
def exploreFolder (tree : Tree) (p : Path) : IO Tree := do
  let (tree, place) ← explore tree [] p.parts
  let directories := (Path.mk .absolute place).enclosing.take Host.searchLimit
  directories.foldlM (fun tree directory => exploreFile tree (directory.child Host.projectFileName)) tree

/-- What the program finds around it as far as its arguments make it look. -/
def hostAround (arguments : List String) : IO Host := do
  let here := Path.ofText (toString (← IO.currentDir))
  let host := Host.standard { environment := ← ownEnvironment, directory := here.parts }
  let roots := ((readArguments? programOptions false arguments).map namedRoots).getD []
  let tree ← (here :: roots.map here.join).foldlM exploreFolder host.tree
  let tree ← [host.machinePath, host.userPath].foldlM exploreFile tree
  return { host with tree }

end LayeredSettings

open LayeredSettings in
/-- Runs the program and tells a failure that no command expects. -/
def main (arguments : List String) : IO UInt32 := do
  let result := runProgram (← hostAround arguments) arguments
  IO.print result.output
  IO.eprint result.diagnostics
  if let some failure := result.failure then IO.eprintln failure.message
  return UInt32.ofNat result.exitCode

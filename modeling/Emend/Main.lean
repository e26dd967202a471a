import Emend.CommandLine.Program
import Emend.Tree.Change

/-!
# The program on a computer

The program works on a picture of the files that a command line can reach: all that
lies below the working directory and below the places that its words name.  What the
program changes in the picture is written to the files themselves.
-/

namespace Emend.Picture

/-- Places with what stands there.  A place may come more than once. -/
abbrev Part := List (Location × Entry)

def locationOf (path : String) : Location :=
  (Path.split (Path.ofString path)).filter (· ≠ [])

/-- What stands at a place.  A link is drawn as one to where it leads in the end. -/
def entryAt? (path : String) : IO (Option Entry) := do
  let place := System.mkFilePath [path]
  try
    match (← place.symlinkMetadata).type with
    | .dir => return some .directory
    | .file => return some (.file (← IO.FS.readBinFile place).toList)
    | .symlink => return some (.link (Path.ofString (← IO.FS.realPath place).toString))
    | .other => return none
  catch _ => return none

/-- The places on the way to a place, and the place itself. -/
def along (path : String) : IO Part := do
  let names := (path.splitOn "/").filter (· ≠ "")
  let paths := (List.range names.length).map fun i =>
    "/" ++ String.intercalate "/" (names.take (i + 1))
  let found ← paths.mapM fun path => do
    return (← entryAt? path).map fun entry => (locationOf path, entry)
  return found.filterMap id

/-- A place and what is below it. -/
partial def below (path : String) : IO Part := do
  match ← entryAt? path with
  | none => return []
  | some .directory =>
    let listed ← try (System.mkFilePath [path]).readDir catch _ => pure #[]
    let parts ← listed.toList.mapM fun entry => below (path ++ "/" ++ entry.fileName)
    return (locationOf path, .directory) :: parts.flatten
  | some (.link target) =>
    return (locationOf path, .link target) :: (← along (Path.display target))
  | some entry => return [(locationOf path, entry)]

/-- The places that a word names, by itself or after an equals sign. -/
def ofWord (here word : String) : IO Part := do
  let parts ← [word, String.intercalate "=" ((word.splitOn "=").drop 1)].mapM fun text => do
    let path := if text.startsWith "/" then text else here ++ "/" ++ text
    try
      let real := (← IO.FS.realPath (System.mkFilePath [path])).toString
      return (← along path) ++ (← along real) ++ (← below real)
    catch _ => return []
  return parts.flatten

/-- The files as the program sees them. -/
def take (words : List String) : IO Files := do
  let here := (← IO.currentDir).toString
  let named ← words.mapM (ofWord here)
  let part := (← along here) ++ (← below here) ++ named.flatten
  let tree := part.foldl (fun tree (location, entry) => tree.put location entry) Tree.empty
  return ⟨tree, locationOf here, none⟩

/-- Writes the files that differ between two pictures. -/
def develop (before after : Tree) : IO Unit :=
  (Tree.changes before after).forM fun (path, entry?) =>
    match entry? with
    | some (.file content) =>
      IO.FS.writeBinFile (System.mkFilePath ["/" ++ Path.display path]) ⟨content.toArray⟩
    | _ => pure ()

end Emend.Picture

def main (words : List String) : IO UInt32 := do
  let files ← Emend.Picture.take words
  let ending := Emend.CommandLine.program files (words.map Emend.Utf8.encode)
  Emend.Picture.develop files.tree ending.files.tree
  (← IO.getStdout).write ⟨ending.output.toArray⟩
  IO.eprint ending.errors
  return ending.code.toUInt32

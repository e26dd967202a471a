import Emend.Files

/-!
# Setting up files

Making and removing entries, beside the reading and writing of files that patching
needs.  Directories that a path passes through are made on the way.
-/

namespace Emend.Files

/-- A path cut off after each of its names. -/
def ancestors (path : Path) : List Path :=
  let names := (Path.split path).filter (· ≠ [])
  let start : Path := if path.isAbsolute then [Path.slash] else []
  ((List.range names.length).map fun i =>
    start ++ [Path.slash].intercalate (names.take (i + 1)))

/-- Puts an entry at a free place. -/
def make (files : Files) (path : Path) (entry : Entry) : Files :=
  match files.locate ⟨false, false⟩ path with
  | .ok (.free location) => { files with tree := files.tree.put location entry }
  | _ => files

/-- Makes a directory and every directory on the way to it that is missing. -/
def makeDirectories (files : Files) (path : Path) : Files :=
  (ancestors path).foldl (fun files path => files.make path .directory) files

/-- Makes the directories on the way to an entry. -/
def makeParents (files : Files) (path : Path) : Files :=
  (ancestors path).dropLast.foldl (fun files path => files.make path .directory) files

/-- Makes or replaces a file with everything on the way to it. -/
def putFile (files : Files) (path : Path) (content : Bytes) : Files :=
  ((files.makeParents path).write path content).2

def putLink (files : Files) (path target : Path) : Files :=
  (files.makeParents path).make path (.link target)

/-- Removes an entry with all that it holds. -/
def remove (files : Files) (path : Path) : Files :=
  match files.locate ⟨false, false⟩ path with
  | .ok (.found location _) => { files with tree := files.tree.remove location }
  | _ => files

end Emend.Files

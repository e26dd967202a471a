import Emend.Error
import Emend.Files

/-!
# Patching one file

A file is read, passed through a rule table and written back if the text has
changed.  Before that the old content goes to a backup beside the file.  A failed
write undoes nothing, so that the old content is always in one of the two places.
-/

namespace Emend

inductive Patched where
  | fixed
  | unchanged
  deriving DecidableEq

namespace Patched

def tag : Patched → String
  | fixed => "[FIXED]"
  | unchanged => "[OK]   "

/-- The line that reports a file. -/
def line (outcome : Patched) (path : Path) : String := outcome.tag ++ " " ++ path.display

end Patched

/-- The backup of a file has the file's full name and one more extension. -/
def backupPath (path : Path) : Path := path ++ Path.ofString ".backup"

namespace Files

/-- Saves the old content, then writes the new one. -/
def overwrite (files : Files) (path : Path) (old new : String) : Except Error Patched × Files :=
  match files.write (backupPath path) (Utf8.encode old) with
  | (.error e, files) => (.error (.backupFailed (backupPath path) e), files)
  | (.ok (), files) =>
    match files.write path (Utf8.encode new) with
    | (.error e, files) => (.error (.overwriteFailed path e), files)
    | (.ok (), files) => (.ok .fixed, files)

/-- Patches a file.  A dry run stops short of writing. -/
def patch (files : Files) (path : Path) (table : RuleTable) (dryRun : Bool) :
    Except Error Patched × Files :=
  match files.read path with
  | .error e => (.error (.fileUnreadable path e), files)
  | .ok bytes =>
    match Utf8.decode bytes with
    | .error fault => (.error (.fileNotText path fault), files)
    | .ok old =>
      let new := table.apply old
      if new = old then (.ok .unchanged, files)
      else if dryRun then (.ok .fixed, files)
      else files.overwrite path old new

end Files

end Emend

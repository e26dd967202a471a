import Emend.Text.Utf8

/-!
# Paths

A path is a byte string whose components are parted by slashes.  It need not be
UTF-8: for display every part that is no text becomes the replacement character.
-/

namespace Emend

abbrev Path := Bytes

/-- The name of an entry in its directory. -/
abbrev Name := Bytes

namespace Path

def slash : UInt8 := 0x2F

def dot : UInt8 := 0x2E

def ofString (text : String) : Path := Utf8.encode text

def display (path : Path) : String := Utf8.lossy path

/-- The stretches of a byte string between slashes. -/
def split (path : Path) : List Bytes := path.splitOn slash

def isAbsolute (path : Path) : Bool := path.head? = some slash

/-- The last component, where empty components and single dots do not count.  There
is none if that component leads to the parent. -/
def fileName? (path : Path) : Option Name :=
  match ((split path).filter fun c => c ≠ [] ∧ c ≠ [dot]).getLast? with
  | some name => if name = [dot, dot] then none else some name
  | none => none

/-- A path relative to a directory, seen from where the directory's path starts.  An
absolute path stays what it is. -/
def join (directory path : Path) : Path :=
  if path.isAbsolute || directory.isEmpty then path
  else if directory.getLast? = some slash then directory ++ path
  else directory ++ slash :: path

end Path

end Emend

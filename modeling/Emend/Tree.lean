import Emend.Path

/-!
# Directory trees

A tree holds files, directories and symbolic links, each under the list of names
that leads to it from the root.  The root is a directory and has no entry.
-/

namespace Emend

/-- The names that lead from the root of a tree to an entry. -/
abbrev Location := List Name

inductive Entry where
  | file (content : Bytes)
  | directory
  | link (target : Path)
  deriving DecidableEq

structure Tree where
  entries : List (Location × Entry)
  deriving DecidableEq

namespace Tree

def empty : Tree := ⟨[]⟩

def entry? (tree : Tree) (location : Location) : Option Entry :=
  if location = [] then some .directory
  else (tree.entries.find? (·.1 = location)).map (·.2)

/-- Puts an entry at a location, in the place of what is there. -/
def put (tree : Tree) (location : Location) (entry : Entry) : Tree :=
  if tree.entries.any (·.1 = location) then
    ⟨tree.entries.map fun e => if e.1 = location then (location, entry) else e⟩
  else ⟨tree.entries ++ [(location, entry)]⟩

/-- Removes an entry with all that is below it. -/
def remove (tree : Tree) (location : Location) : Tree :=
  ⟨tree.entries.filter fun e => !location.isPrefixOf e.1⟩

/-- The entries of a directory, by name. -/
def children (tree : Tree) (location : Location) : List (Name × Entry) :=
  tree.entries.filterMap fun (l, entry) =>
    match l.getLast? with
    | some name => if l.dropLast = location then some (name, entry) else none
    | none => none

end Tree

end Emend

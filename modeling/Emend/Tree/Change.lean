import Emend.Files

/-!
# Differences between trees

What has changed from one tree to another is listed by path.  An entry is new if it
was not there before or was another one, and links are not followed.
-/

namespace Emend

/-- The path that leads to a location from the root. -/
def Location.path (location : Location) : Path := [Path.slash].intercalate location

/-- The entries below a location, under the names that lead to them from there. -/
def Tree.below (tree : Tree) (location : Location) : Tree :=
  ⟨tree.entries.filterMap fun (l, entry) =>
    if location.isPrefixOf l ∧ l ≠ location then some (l.drop location.length, entry) else none⟩

namespace Tree

/-- Every path at which two trees differ, in the order of bytes, with what is there
afterwards. -/
def changes (before after : Tree) : List (Path × Option Entry) :=
  let new := after.entries.filterMap fun (l, entry) =>
    if before.entry? l = some entry then none else some (Location.path l, some entry)
  let gone := before.entries.filterMap fun (l, _) =>
    if (after.entry? l).isNone then some (Location.path l, none) else none
  (new ++ gone).mergeSort fun a b => Files.nameLe a.1 b.1

end Tree

end Emend

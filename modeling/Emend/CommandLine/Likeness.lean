/-!
# Likeness of words

A word that nothing is called is taken for a slip if it is like a word that is: if many
characters of each have a partner near the same place in the other, and the partners
come in the same order.
-/

namespace Emend.CommandLine

/-- Pairs the characters of a word, from the first on, each with the first free equal
one of another word that stands at most `reach` places off.  The result has the
character and the other's place. -/
def partners (reach : Nat) (other : List (Char × Nat)) :
    List (Char × Nat) → List Nat → List (Char × Nat)
  | [], _ => []
  | (c, i) :: rest, taken =>
    let partner := other.find? fun (d, j) =>
      d = c && i ≤ j + reach && j ≤ i + reach && !taken.contains j
    match partner with
    | some (_, j) => (c, j) :: partners reach other rest (j :: taken)
    | none => partners reach other rest taken

/-- Whether two words are alike: the mean of three shares, those of the characters with
partners in either word and that of the partners in order, is above seven tenths.  Of
two partners that stand crosswise one is out of order. -/
def isLike (left right : String) : Bool :=
  let reach := max left.length right.length / 2 - 1
  let pairs := partners reach right.toList.zipIdx left.toList.zipIdx []
  let inOrder := right.toList.zipIdx.filter fun (_, j) => pairs.any (·.2 = j)
  let misplaced := ((pairs.zip inOrder).filter fun (a, b) => a.1 ≠ b.1).length / 2
  let share (part whole : Nat) : Float := part.toFloat / whole.toFloat
  let mean := (share pairs.length left.length + share pairs.length right.length +
    share (pairs.length - misplaced) pairs.length) / 3
  !pairs.isEmpty && mean > 0.7

end Emend.CommandLine

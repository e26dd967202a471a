import Emend.CharSet
import Emend.Unicode.CaseFoldTable

/-!
# Equality up to case

Folding sends every character to the representative of its case variants.  A set
is closed up to case by adding the representatives of its members and then all that
is sent to one of those.
-/

namespace Emend.Unicode

/-- Every character that folding changes, with its representative. -/
def foldPairs : List (Nat × Nat) := caseFoldRuns.flatMap CaseRun.pairs

def setOfCodes (codes : List Nat) : CharSet :=
  ⟨CharSet.normalize ((codes.mergeSort).map fun code => ⟨code, code⟩)⟩

/-- The smallest set around `s` that holds all case variants of its members. -/
def closeUnderCase (s : CharSet) : CharSet :=
  let images := foldPairs.filterMap fun (code, image) =>
    if CharSet.holds code s.runs then some image else none
  let representatives := s ∪ setOfCodes images
  let variants := foldPairs.filterMap fun (code, image) =>
    if CharSet.holds image representatives.runs then some code else none
  representatives ∪ setOfCodes variants

/-- The case variants of a set of ASCII characters inside ASCII. -/
def closeUnderAsciiCase (s : CharSet) : CharSet :=
  let letters := (List.range 26).flatMap fun i =>
    let upper := 'A'.toNat + i
    let lower := 'a'.toNat + i
    if CharSet.holds upper s.runs || CharSet.holds lower s.runs then [upper, lower] else []
  s ∪ setOfCodes letters

end Emend.Unicode

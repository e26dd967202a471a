/-!
# Runs of case pairs

Case mappings are mostly regular: a block of capitals stands at a fixed distance
from its small letters, or capitals and small letters alternate.  A run describes
such a block in four numbers.
-/

namespace Emend.Unicode

/-- The code points `first`, `first + step`, … up to `last` are sent to `image`,
`image + step`, and so on. -/
structure CaseRun where
  first : Nat
  last : Nat
  step : Nat
  image : Nat
  deriving DecidableEq

namespace CaseRun

def imageOf? (run : CaseRun) (code : Nat) : Option Nat :=
  if run.first ≤ code ∧ code ≤ run.last ∧ (code - run.first) % run.step = 0 then
    some (run.image + (code - run.first))
  else none

/-- The pairs of a code point and its image that a run stands for. -/
def pairs (run : CaseRun) : List (Nat × Nat) :=
  (List.range ((run.last - run.first) / run.step + 1)).map fun i =>
    (run.first + i * run.step, run.image + i * run.step)

end CaseRun

/-- The image of a code point under the first run that reaches it. -/
def applyRuns? (runs : List CaseRun) (code : Nat) : Option Nat :=
  runs.findSome? (·.imageOf? code)

end Emend.Unicode

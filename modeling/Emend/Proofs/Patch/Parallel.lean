import Emend.Proofs.Files.Outline
import Emend.Patch

/-!
# Patching two trees side by side

Two trees of one outline are patched in the same way.  A file that both of them hold
alike is read alike, and what is written from it is written to the same place.  Where
the trees differ afterwards, neither has been written.
-/

namespace Emend.Files

variable {start other first second : Files} {path : Path} {location : Location}
  {content : Bytes}

/-- Two trees that have come from two others.  They have one outline, and where they differ
both are as they were. -/
structure Parallel (start other first second : Files) : Prop where
  grows : start.Grows first
  well : first.WellFormed
  well' : second.WellFormed
  outline : first.SameOutline second
  entry : ∀ location, first.tree.entry? location = second.tree.entry? location ∨
    first.tree.entry? location = start.tree.entry? location ∧
      second.tree.entry? location = other.tree.entry? location

/-- Where a path leads, both trees hold the same. -/
def Alike (start other : Files) (path : Path) : Prop :=
  ∀ location, start.slot? path = some location →
    start.tree.entry? location = other.tree.entry? location

namespace Parallel

theorem refl (hwell : start.WellFormed) (hwell' : other.WellFormed)
    (houtline : start.SameOutline other) : Parallel start other start other where
  grows := .refl start
  well := hwell
  well' := hwell'
  outline := houtline
  entry _ := .inr ⟨rfl, rfl⟩

variable (hparallel : Parallel start other first second)
include hparallel

theorem store (hslot : first.slot? path = some location) (content : Bytes) :
    Parallel start other (first.store location content) (second.store location content) := by
  have hslot' : second.slot? path = some location := by
    rw [← hparallel.outline.slot_eq, hslot]
  have hopen := isOpen_of_slot hslot
  refine ⟨hparallel.grows.trans (.store hopen content), hparallel.well.store hslot,
    hparallel.well'.store hslot', ?_, fun place => ?_⟩
  · exact ⟨hparallel.outline.here, hparallel.outline.sizeLimit,
      hparallel.outline.tree.put hopen.ne_nil⟩
  · rw [entry_store hopen, entry_store (isOpen_of_slot hslot')]
    split_ifs
    · exact .inl rfl
    · exact hparallel.entry place

/-- A path that leads to the same in both trees reads the same in both. -/
theorem read_eq (halike : Alike start other path) : first.read path = second.read path := by
  apply hparallel.outline.read_eq
  intro location hslot
  rcases hparallel.entry location with hsame | ⟨hfirst, hsecond⟩
  · exact hsame
  · -- Neither file has been written, so that both hold what they held at the start.
    calc
      first.tree.entry? location = start.tree.entry? location := hfirst
      _ = other.tree.entry? location := halike location (hparallel.grows.shape.slot_eq.trans hslot)
      _ = second.tree.entry? location := hsecond.symm

theorem write (path : Path) (content : Bytes) :
    (first.write path content).1 = (second.write path content).1 ∧
      Parallel start other (first.write path content).2 (second.write path content).2 := by
  obtain ⟨houtcome, ⟨hfirst, hsecond⟩ | ⟨location, stored, hslot, hfirst, hsecond⟩⟩ :=
    hparallel.outline.write_eq path content
  · rw [hfirst, hsecond]
    exact ⟨houtcome, hparallel⟩
  · rw [hfirst, hsecond]
    exact ⟨houtcome, hparallel.store hslot stored⟩

theorem overwrite (path : Path) (old new : String) :
    (first.overwrite path old new).1 = (second.overwrite path old new).1 ∧
      Parallel start other (first.overwrite path old new).2
        (second.overwrite path old new).2 := by
  obtain ⟨houtcome, hmiddle⟩ := hparallel.write (backupPath path) (Utf8.encode old)
  unfold Files.overwrite
  rcases hfirst : first.write (backupPath path) (Utf8.encode old) with ⟨outcome, middle⟩
  rcases hsecond : second.write (backupPath path) (Utf8.encode old) with ⟨outcome', middle'⟩
  rw [hfirst, hsecond] at houtcome hmiddle
  obtain rfl : outcome = outcome' := houtcome
  cases outcome with
  | error e => exact ⟨rfl, hmiddle⟩
  | ok =>
    obtain ⟨hlast, hafter⟩ := hmiddle.write path (Utf8.encode new)
    simp only
    rcases hfirst : middle.write path (Utf8.encode new) with ⟨last, after⟩
    rcases hsecond : middle'.write path (Utf8.encode new) with ⟨last', after'⟩
    rw [hfirst, hsecond] at hlast hafter
    obtain rfl : last = last' := hlast
    cases last with
    | error e => exact ⟨rfl, hafter⟩
    | ok => exact ⟨rfl, hafter⟩

/-- A file that both trees held alike at the start is patched alike. -/
theorem patch (halike : Alike start other path) (table : RuleTable) (dryRun : Bool) :
    (first.patch path table dryRun).1 = (second.patch path table dryRun).1 ∧
      Parallel start other (first.patch path table dryRun).2
        (second.patch path table dryRun).2 := by
  unfold Files.patch
  rw [← hparallel.read_eq halike]
  cases first.read path with
  | error e => exact ⟨rfl, hparallel⟩
  | ok bytes =>
    cases hdecode : Utf8.decode bytes with
    | error fault => simpa only [hdecode] using ⟨trivial, hparallel⟩
    | ok old =>
      simp only [hdecode]
      split_ifs
      · exact ⟨rfl, hparallel⟩
      · exact ⟨rfl, hparallel⟩
      · exact hparallel.overwrite path old (table.apply old)

end Parallel

end Emend.Files

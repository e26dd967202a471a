import Emend.Proofs.Files.Growth
import Emend.Proofs.Patch.Placement
import Emend.Proofs.Scan.Visits

/-!
# Scanning while files are made

Files are made while a scan goes on.  It still comes to every place that it would have
come to, and at a directory to the new files beside.  What it finds in the end was found
from the start, or is a new file: it stands where nothing stood, or a link that led
nowhere leads to it now.
-/

namespace Emend

open Emend.Path (descend)

variable {scanner : Scanner} {before after : Files} {base : Location} {names : List Name}
  {name : Name} {kind : EntryKind} {entries : List (Name × EntryKind)} {visit other : Visit}
  {path root : Path}

namespace Files

/-- Nothing stands where a path leads, if it leads anywhere. -/
def Vacant (files : Files) (path : Path) : Prop :=
  ∀ location, files.slot? path = some location → files.tree.entry? location = none

/-- Where a path leads to no file, a file can only be made. -/
theorem vacant_of_not_isFile {files : Files} (hfile : files.isFile path ≠ true) :
    files.Vacant path := by
  intro location hslot
  rcases isOpen_of_slot hslot with hnone | ⟨content, hentry⟩
  · exact hnone
  · have hlocate := locate_file_iff.mpr ⟨hslot, hentry⟩
    have hkind : files.kind path = .ok .file := kind_eq_ok_iff.mpr ⟨_, _, hlocate, rfl⟩
    rw [isFile, hkind] at hfile
    exact absurd rfl hfile

/-- A directory lists what it lists now, or cannot be read as before. -/
theorem SameShape.list_eq (hshape : before.SameShape after)
    (hbase : before.directoryAt? root = some base) (hnames : ∀ name ∈ names, name.Proper)
    (hdescends : Descends before.tree base names) :
    after.list (descend root names) =
      (before.list (descend root names)).map fun _ => listing after.tree (base ++ names) := by
  rw [list_descend hbase hnames hdescends,
    list_descend (hshape.directoryAt_eq ▸ hbase) hnames (hshape.descends hdescends)]
  cases goal root base names <;> rfl

end Files

namespace Scanner

variable (hgrows : before.Grows after) (hwell : before.tree.WellFormed)
  (hwell' : after.tree.WellFormed) (hbase : before.directoryAt? scanner.root = some base)

namespace Comes

variable (hshape : before.SameShape after) (hcomes : Comes scanner before names visit)
include hbase hcomes

section
include hshape

/-- What a place is to a scan does not depend on the files that there are. -/
theorem kind_eq : visit.kind after = visit.kind before := by
  cases hcomes with
  | root =>
    rw [kind_of_directoryAt hbase, kind_of_directoryAt (hshape.directoryAt_eq ▸ hbase)]
  | child => rfl

include hwell

/-- The directory at a place of a scan lists what stands in the tree below it. -/
theorem list_eq (hkind : visit.kind before = .ok .directory) :
    after.list visit.path = (before.list visit.path).map fun _ =>
      Files.listing after.tree (base ++ names) := by
  have hdescends := hcomes.descends_from hwell hbase hkind
  rw [hcomes.path_eq]
  exact hshape.list_eq hbase (hcomes.proper hwell) hdescends

end

include hgrows hwell hwell'

/-- A scan comes from a place to those that it came to before, or to new files. -/
theorem child_or_new (hkind : visit.kind before = .ok .directory)
    (hlist : after.list visit.path = .ok entries) (hentry : (name, kind) ∈ entries) :
    Comes scanner before (names ++ [name]) (.entry (visit.path.join name) kind) ∨
      kind = .file ∧ before.tree.entry? (base ++ (names ++ [name])) = none ∧
        ∃ entry, after.tree.entry? (base ++ (names ++ [name])) = some entry := by
  have hnow := hcomes.list_eq hwell hbase hgrows.shape hkind
  cases hbefore : before.list visit.path with
  | error e =>
    rw [hlist, hbefore] at hnow
    cases hnow
  | ok listed =>
    rw [hlist, hbefore] at hnow
    cases hnow
    obtain ⟨entry, hstands, rfl⟩ := (Files.mem_listing_iff hwell').mp hentry
    rw [List.append_assoc] at hstands
    cases hwas : before.tree.entry? (base ++ (names ++ [name])) with
    | none => exact .inr ⟨hgrows.file_of_new hwas hstands, rfl, entry, hstands⟩
    | some was =>
      obtain ⟨now, hkept, hsame, -⟩ := hgrows.stays hwas
      rw [hstands, Option.some.injEq] at hkept
      subst hkept
      have hdescends := hcomes.descends_from hwell hbase hkind
      have hpath := hcomes.path_eq
      refine .inl (hcomes.child hkind hbefore ?_)
      rw [hpath] at hbefore
      rw [Files.entries_eq_listing hbase (hcomes.proper hwell) hdescends hbefore, hsame]
      exact (Files.mem_listing_iff hwell).mpr ⟨was, by rwa [List.append_assoc], rfl⟩

end Comes

/-- A scan comes to a place from the start, or it is a file that stands where nothing
stood. -/
def Arrives (scanner : Scanner) (files : Files) (visit : Visit) : Prop :=
  (∃ names, Comes scanner files names visit) ∨
    ∃ path, visit = .entry path .file ∧ files.Vacant path

namespace Arrives

theorem start (scanner : Scanner) (files : Files) :
    Arrives scanner files (.root scanner.root) := .inl ⟨[], .root⟩

variable (harrives : Arrives scanner before visit)
include hgrows hwell hbase harrives

/-- What is found was found from the start, or it is new. -/
theorem found (hfound : .file path ∈ (scanner.expand after visit).1) :
    .file path ∈ scanner.scan before ∨ before.Vacant path := by
  rcases mem_expand_found.mp hfound with ⟨hfile, hcounts, hwants⟩ | ⟨_, hskip, -⟩
  · cases hfile
    rcases harrives with ⟨names, hcomes⟩ | ⟨path, rfl, hvacant⟩
    · by_cases hstands : visit.Counts before
      · exact .inl ((mem_scan_iff hwell).mpr
          ⟨names, visit, hcomes, mem_expand_found.mpr (.inl ⟨rfl, hstands, hwants⟩)⟩)
      · refine .inr (Files.vacant_of_not_isFile fun hfile => hstands ?_)
        rw [Visit.Counts, hcomes.kind_eq hbase hgrows.shape] at hcounts
        exact hcounts.imp id fun hlink => ⟨hlink.1, hfile⟩
    · exact .inr hvacant
  · cases hskip

include hwell'

/-- A scan goes on to places of the same sort. -/
theorem below (hother : other ∈ (scanner.expand after visit).2) :
    Arrives scanner before other := by
  obtain ⟨hkind, entries, hlist, name, kind, hentry, rfl⟩ := mem_expand_below.mp hother
  rcases harrives with ⟨names, hcomes⟩ | ⟨path, rfl, -⟩
  · rw [hcomes.kind_eq hbase hgrows.shape] at hkind
    rcases hcomes.child_or_new hgrows hwell hwell' hbase hkind hlist hentry with
      hold | ⟨rfl, hnone, -⟩
    · exact .inl ⟨_, hold⟩
    · refine .inr ⟨_, rfl, fun location hslot => ?_⟩
      have hdescends := hcomes.descends_from hwell hbase hkind
      rw [hcomes.path_eq, ← Path.descend_concat] at hslot
      have hlocation := Files.slot_below hbase (hcomes.proper hwell)
        (proper_of_list hwell' hlist hentry) hdescends (by simp [hnone]) hslot
      rw [hlocation, hnone]
  · cases hkind

end Arrives

end Scanner

end Emend

import Emend.Proofs.Patch.Repeat
import Emend.Proofs.Patch.Growth
import Emend.Proofs.Scan.Arrivals
import Emend.Proofs.Scan.Order
import Emend.Proofs.Scan.Backups

/-!
# Scanning a tree that has grown

A scan does not notice files that it does not look for.  Patching adds nothing but such
files to a tree if no extension takes backups for files, so that a tree that has been
patched scans as before.
-/

namespace Emend

open Emend.Path (descend)

variable {scanner : Scanner} {before after : Files} {base : Location} {names : List Name}
  {visit : Visit} {found : Scanned}

namespace Scanner

/-- Nothing has come to a tree but files that a scan does not look for. -/
structure Grown (scanner : Scanner) (base : Location) (before after : Files) : Prop where
  shape : before.SameShape after
  kept : ∀ location entry, before.tree.entry? location = some entry →
    ∃ now, after.tree.entry? location = some now ∧ now.kind = entry.kind
  added : ∀ names entry, after.tree.entry? (base ++ names) = some entry →
    before.tree.entry? (base ++ names) = none →
      entry.kind = .file ∧ scanner.wants (descend scanner.root names) = false

namespace Grown

/-- Patching files whose backups a scan does not look for makes a tree grow. -/
theorem of_series {table : RuleTable} {log : List (Path × String)}
    (hfree : before.tree.LinkFree) (hbase : before.directoryAt? scanner.root = some base)
    (hbeneath : ∀ e ∈ log, before.Beneath scanner.root base e.1)
    (hwants : ∀ e ∈ log, scanner.wants (backupPath e.1) = false)
    (hseries : Files.Series table log before after) : Grown scanner base before after := by
  have hgrows := hseries.grows
  refine ⟨hgrows.shape, fun location entry hentry => ?_, fun names entry hentry hnone => ?_⟩
  · obtain ⟨now, hstays, hsame, -⟩ := hgrows.stays hentry
    exact ⟨now, hstays, hsame⟩
  · refine ⟨hgrows.file_of_new hnone hentry, ?_⟩
    obtain ⟨e, hmem, hslot⟩ : ∃ e ∈ log, before.slot? (backupPath e.1) = some (base ++ names) := by
      by_contra hnot
      have hkind := hseries.kind_eq fun e hmem hslot => hnot ⟨e, hmem, hslot⟩
      rw [hentry, hnone] at hkind
      cases hkind
    rw [← (hbeneath e hmem).backup.path_eq hfree hbase hslot]
    exact hwants e hmem

variable (hgrown : Grown scanner base before after)
include hgrown

theorem grows : before.Grows after := by
  refine ⟨hgrown.shape, fun location content hentry => ?_⟩
  obtain ⟨now, hnow, hkind⟩ := hgrown.kept location _ hentry
  cases now with
  | file other => exact ⟨other, hnow⟩
  | directory | link => cases hkind

/-- A scan still comes to every place. -/
theorem comes (hwell : before.tree.WellFormed) (hwell' : after.tree.WellFormed)
    (hbase : before.directoryAt? scanner.root = some base)
    (hcomes : Comes scanner before names visit) : Comes scanner after names visit := by
  induction hcomes with
  | root => exact .root
  | child hvisit hkind hlist hentry ih =>
    have hnow := hvisit.list_eq hwell hbase hgrown.shape hkind
    rw [hlist] at hnow
    refine ih.child ?_ hnow ?_
    · rw [hvisit.kind_eq hbase hgrown.shape, hkind]
    · have hdescends := hvisit.descends_from hwell hbase hkind
      obtain ⟨entry, hold, rfl⟩ := hvisit.listed hwell hbase hdescends hlist hentry
      rw [← List.append_assoc] at hold
      exact (Files.mem_listing_iff hwell').mpr (hgrown.kept _ _ hold)

/-- A scan comes to no new place but to files that it does not look for. -/
theorem comes_before (hwell : before.tree.WellFormed) (hwell' : after.tree.WellFormed)
    (hbase : before.directoryAt? scanner.root = some base)
    (hcomes : Comes scanner after names visit) :
    Comes scanner before names visit ∨
      ∃ path, visit = .entry path .file ∧ scanner.wants path = false := by
  induction hcomes with
  | root => exact .inl .root
  | @child names visit name kind entries hvisit hkind hlist hentry ih =>
    rcases ih with hold | ⟨path, rfl, -⟩
    · rw [hold.kind_eq hbase hgrown.shape] at hkind
      rcases hold.child_or_new hgrown.grows hwell hwell' hbase hkind hlist hentry with
        hthere | ⟨rfl, hnone, entry, hstands⟩
      · exact .inl hthere
      · obtain ⟨-, hwants⟩ := hgrown.added _ _ hstands hnone
        rw [Path.descend_concat, ← hold.path_eq] at hwants
        exact .inr ⟨_, rfl, hwants⟩
    · cases hkind

/-- At every place the same is found. -/
theorem found_eq (hwell : before.tree.WellFormed) (hfree : before.tree.LinkFree)
    (hbase : before.directoryAt? scanner.root = some base)
    (hcomes : Comes scanner before names visit) :
    (scanner.expand after visit).1 = (scanner.expand before visit).1 := by
  rw [expand_eq, expand_eq, hcomes.kind_eq hbase hgrown.shape]
  rcases hkind : visit.kind before with e | _ | _ | _
  · rfl
  · rfl
  · simp only [look, enter, hcomes.list_eq hwell hbase hgrown.shape hkind]
    cases before.list visit.path <;> rfl
  · exact absurd hkind (hcomes.not_link hwell hfree hbase)

/-- A tree that has grown scans as before. -/
theorem scan_eq (hwell : before.tree.WellFormed) (hwell' : after.tree.WellFormed)
    (hfree : before.tree.LinkFree) (hbase : before.directoryAt? scanner.root = some base) :
    scanner.scan after = scanner.scan before := by
  have hsame (found : Scanned) : found ∈ scanner.scan after ↔ found ∈ scanner.scan before := by
    rw [mem_scan_iff hwell, mem_scan_iff hwell']
    constructor
    · rintro ⟨names, visit, hcomes, hfound⟩
      rcases hgrown.comes_before hwell hwell' hbase hcomes with hold | ⟨path, rfl, hwants⟩
      · exact ⟨names, visit, hold, hgrown.found_eq hwell hfree hbase hold ▸ hfound⟩
      · simp [expand, look, hwants] at hfound
    · rintro ⟨names, visit, hcomes, hfound⟩
      exact ⟨names, visit, hgrown.comes hwell hwell' hbase hcomes,
        (hgrown.found_eq hwell hfree hbase hcomes).symm ▸ hfound⟩
  -- Both scans are in the one strict order, so that their members determine them.
  apply List.Perm.eq_of_pairwise _ (report_pairwise hwell' .root) (report_pairwise hwell .root)
  · exact (List.perm_ext_iff_of_nodup (scan_nodup hwell' scanner) (scan_nodup hwell scanner)).mpr
      hsame
  · intro first second _ _ hlt hgt
    exact absurd hgt (List.lt_asymm hlt)

end Grown

end Scanner

end Emend

import Emend.Proofs.Files.Addition
import Emend.Proofs.Patch.Growth
import Emend.Proofs.Patch.Progress

/-!
# Patching beside a new file

Files below a root are patched as before when one file has come to the tree that is none
of them and none of their backups.  The outcomes are the same, and what is written is
written to the same places, so that the new file stays the only difference.
-/

namespace Emend.Files

open Emend.Path (descend)

variable {files before after : Files} {table : RuleTable} {path root : Path}
  {base place location : Location} {content : Bytes} {paths : List Path}

/-- Without links nothing is missing on the way to a path below a root. -/
theorem Beneath.locate_ne (hfree : files.tree.LinkFree)
    (hbase : files.directoryAt? root = some base) (hpath : files.Beneath root base path) :
    files.locate ⟨true, false⟩ path ≠ .error .notFound := by
  obtain ⟨names, name, rfl, hproper, hdescends⟩ := hpath
  have hroot := ne_nil_of_directoryAt hbase
  have hnames : ∀ part ∈ names, part.Proper := fun part hpart => hproper part (by simp [hpart])
  have hname : name.Proper := hproper name (by simp)
  obtain ⟨left, hleft⟩ := walk_stem hbase
  have hlast : walk files.tree ⟨true, false⟩ left (base ++ names) [name] ≠ .error .notFound := by
    by_cases hlength : name.length ≤ nameLimit
    · rw [walk_of_looksUp (.of_proper hname hlength)]
      cases hentry : files.tree.entry? (base ++ names ++ [name]) with
      | none => simp
      | some entry =>
        cases entry with
        | file content => simp
        | directory => simp [walk.eq_def]
        | link target => exact absurd hentry (hfree _ target)
    · rw [walk_of_too_long hname (Nat.not_le.mp hlength)]
      simp
  rw [locate, if_neg (Path.descend_ne_nil hroot hproper), steps_descend hroot (by simp) hproper,
    Path.isAbsolute_descend hroot hproper, ← origin, hleft, walk_descends hdescends hnames]
  split_ifs
  · simp
  · simp
  · exact hlast
  · simp

/-- A path lies below a root, and neither it nor its backup leads to a place. -/
structure Passes (files : Files) (root : Path) (base place : Location) (path : Path) : Prop where
  beneath : files.Beneath root base path
  slot_ne : files.slot? path ≠ some place
  backup_ne : files.slot? (backupPath path) ≠ some place

theorem Passes.of_shape (hshape : before.SameShape after)
    (hpasses : before.Passes root base place path) : after.Passes root base place path where
  beneath := hpasses.beneath.of_shape hshape
  slot_ne := hshape.slot_eq ▸ hpasses.slot_ne
  backup_ne := hshape.slot_eq ▸ hpasses.backup_ne

/-- Writing keeps the shape of a tree. -/
theorem sameShape_write (files : Files) (path : Path) (content : Bytes) :
    files.SameShape (files.write path content).2 := by
  rcases files.write_cases path content with
    ⟨-, e, hwrite⟩ | ⟨location, hslot, hwrite | ⟨-, hwrite⟩⟩
  · rw [hwrite]
    exact .refl files
  · rw [hwrite]
    exact sameShape_store (isOpen_of_slot hslot)
  · rw [hwrite]
    exact sameShape_store (isOpen_of_slot hslot)

namespace Adds

variable (hadds : Adds place content before after) (hfree : before.tree.LinkFree)
  (hbase : before.directoryAt? root = some base)
include hadds hfree hbase

theorem overwrite (hpasses : before.Passes root base place path) (old new : String) :
    (after.overwrite path old new).1 = (before.overwrite path old new).1 ∧
      Adds place content (before.overwrite path old new).2 (after.overwrite path old new).2 := by
  obtain ⟨houtcome, hmiddle⟩ := hadds.write hpasses.backup_ne
    (hpasses.beneath.backup.locate_ne hfree hbase) (Utf8.encode old)
  have hshape := before.sameShape_write (backupPath path) (Utf8.encode old)
  unfold Files.overwrite
  rcases hfirst : before.write (backupPath path) (Utf8.encode old) with ⟨outcome, middle⟩
  rcases hsecond : after.write (backupPath path) (Utf8.encode old) with ⟨outcome', middle'⟩
  rw [hfirst, hsecond] at houtcome hmiddle
  rw [hfirst] at hshape
  obtain rfl : outcome' = outcome := houtcome
  cases outcome' with
  | error e => exact ⟨rfl, hmiddle⟩
  | ok =>
    have hlater := hpasses.of_shape hshape
    obtain ⟨hlast, hafter⟩ := hmiddle.write hlater.slot_ne
      (hlater.beneath.locate_ne (hshape.tree.linkFree hfree) (hshape.directoryAt_eq ▸ hbase))
      (Utf8.encode new)
    simp only
    rcases hfirst : middle.write path (Utf8.encode new) with ⟨last, final⟩
    rcases hsecond : middle'.write path (Utf8.encode new) with ⟨last', final'⟩
    rw [hfirst, hsecond] at hlast hafter
    obtain rfl : last' = last := hlast
    cases last' with
    | error e => exact ⟨rfl, hafter⟩
    | ok => exact ⟨rfl, hafter⟩

/-- A file is patched as before. -/
theorem patch (hpasses : before.Passes root base place path) (table : RuleTable)
    (dryRun : Bool) :
    (after.patch path table dryRun).1 = (before.patch path table dryRun).1 ∧
      Adds place content (before.patch path table dryRun).2
        (after.patch path table dryRun).2 := by
  unfold Files.patch
  rw [hadds.read_eq hpasses.slot_ne (hpasses.beneath.locate_ne hfree hbase)]
  cases before.read path with
  | error e => exact ⟨rfl, hadds⟩
  | ok bytes =>
    cases hdecode : Utf8.decode bytes with
    | error fault => simpa only [hdecode] using ⟨trivial, hadds⟩
    | ok old =>
      simp only [hdecode]
      split_ifs
      · exact ⟨rfl, hadds⟩
      · exact ⟨rfl, hadds⟩
      · exact hadds.overwrite hfree hbase hpasses old (table.apply old)

/-- Files are patched one after the other as before. -/
theorem patchAll (hpasses : ∀ path ∈ paths, before.Passes root base place path)
    (table : RuleTable) (dryRun : Bool) :
    (after.patchAll table dryRun paths).done = (before.patchAll table dryRun paths).done ∧
      (after.patchAll table dryRun paths).failure =
        (before.patchAll table dryRun paths).failure ∧
      Adds place content (before.patchAll table dryRun paths).files
        (after.patchAll table dryRun paths).files := by
  -- Patching keeps the shape of the tree, so that what passes the new file keeps passing it.
  induction paths generalizing before after with
  | nil => exact ⟨rfl, rfl, hadds⟩
  | cons path paths ih =>
    obtain ⟨houtcome, hmiddle⟩ := hadds.patch hfree hbase (hpasses path (by simp)) table dryRun
    have hshape := (before.patch_patches path table dryRun).changedAt.shape
    rcases hfirst : before.patch path table dryRun with ⟨outcome, middle⟩
    rcases hsecond : after.patch path table dryRun with ⟨outcome', middle'⟩
    rw [hfirst, hsecond] at houtcome hmiddle
    rw [hfirst] at hshape
    obtain rfl : outcome' = outcome := houtcome
    cases outcome' with
    | error e =>
      rw [patchAll_cons_error hfirst, patchAll_cons_error hsecond]
      exact ⟨rfl, rfl, hmiddle⟩
    | ok outcome =>
      rw [patchAll_cons_ok hfirst, patchAll_cons_ok hsecond]
      obtain ⟨hdone, hfailure, hfiles⟩ := ih hmiddle (hshape.tree.linkFree hfree)
        (hshape.directoryAt_eq ▸ hbase)
        fun other hother => (hpasses other (by simp [hother])).of_shape hshape
      exact ⟨by rw [hdone], hfailure, hfiles⟩

end Adds

end Emend.Files

import Emend.Proofs.Patch.Placement
import Emend.Proofs.Patch.Progress
import Emend.Proofs.Text.Encoding

/-!
# Patching again

Rules that are idempotent find nothing to do in a file that they have patched.  Files
that share no slot can therefore be patched any number of times: once they have been,
patching them leaves everything as it is, and patching a longer list does what it
would have done at once.
-/

namespace Emend

def RuleTable.Idempotent (table : RuleTable) : Prop :=
  ∀ text, table.apply (table.apply text) = table.apply text

namespace Files

variable {files before after : Files} {table : RuleTable} {dryRun : Bool} {path root : Path}
  {paths first second : List Path} {log : List (Path × String)} {text : String}
  {base location : Location} {names : List Name} {e : Error} {content : Bytes}

/-! ## Files that stay -/

theorem holds_of_read (hread : files.read path = .ok (Utf8.encode text)) :
    files.Holds path text :=
  ⟨hread, Utf8.decode_encode text⟩

/-- Files whose texts the rules leave alone are all found unchanged. -/
theorem patchAll_of_same
    (hall : ∀ path ∈ paths, ∃ text, files.Holds path text ∧ table.apply text = text) :
    files.patchAll table dryRun paths = ⟨paths.map fun path => (path, .unchanged), none, files⟩ := by
  induction paths with
  | nil => rfl
  | cons path paths ih =>
    obtain ⟨text, hholds, hsame⟩ := hall path (by simp)
    rw [patchAll_cons_ok (hholds.patch_eq hsame), ih fun path hpath => hall path (by simp [hpath])]
    rfl

/-! ## Series -/

/-- Patching files without a failure is a series, with the outcomes that the texts of the
files call for. -/
theorem exists_series (hdone : (files.patchAll table false paths).failure = none) :
    ∃ log, log.map Prod.fst = paths ∧
      (files.patchAll table false paths).done = log.map (fun e => (e.1, verdict table e.2)) ∧
      Series table log files (files.patchAll table false paths).files := by
  induction paths generalizing files with
  | nil => exact ⟨[], rfl, rfl, .done⟩
  | cons path paths ih =>
    rcases hpatch : files.patch path table false with ⟨e | outcome, middle⟩
    · rw [patchAll_cons_error hpatch] at hdone
      cases hdone
    · rw [patchAll_cons_ok hpatch] at hdone ⊢
      obtain ⟨log, rfl, hlog, hrest⟩ := ih hdone
      obtain ⟨text, hseries, rfl⟩ := Series.of_patch hpatch hrest
      exact ⟨(path, text) :: log, rfl, by rw [hlog, List.map_cons], hseries⟩

/-- If no slot is shared, every file of a series holds in the end what the rules have made
of its text. -/
theorem Series.holds_after (hseries : Series table log before after)
    (hnodup : (before.slots (log.map Prod.fst)).Nodup) (hmem : (path, text) ∈ log) :
    after.Holds path (table.apply text) := by
  by_cases hsame : table.apply text = text
  · obtain ⟨place, hplace, hentry⟩ := (hseries.holds_of_slots hnodup hmem).exists_slot
    rw [← hseries.entry_of_slots hnodup hmem hsame (mem_slots_singleton.mpr (.inr hplace))]
      at hentry
    rw [hseries.sameShape.slot_eq] at hplace
    rw [hsame]
    exact holds_of_read (read_of_slot hplace hentry)
  · have hwrites := hnodup.sublist (before.map_writes_sublist table log)
    exact holds_of_read (hseries.reads_of_once
      (fun location _ => List.nodup_iff_count_le_one.mp hwrites location) hmem hsame).1

/-- Patching files that have been patched changes nothing. -/
theorem patchAll_again (hidem : table.Idempotent) (hnodup : (files.slots paths).Nodup)
    (hdone : (files.patchAll table false paths).failure = none) :
    (files.patchAll table false paths).files.patchAll table dryRun paths =
      ⟨paths.map fun path => (path, .unchanged), none,
        (files.patchAll table false paths).files⟩ := by
  obtain ⟨log, hpaths, -, hseries⟩ := exists_series hdone
  apply patchAll_of_same
  intro path hpath
  rw [← hpaths] at hpath hnodup
  obtain ⟨e, hmem, rfl⟩ := List.mem_map.mp hpath
  exact ⟨_, hseries.holds_after hnodup hmem, hidem e.2⟩

/-- Patching files of which the first have been patched ends as patching all of them at
once. -/
theorem patchAll_resumed (second : List Path) (hidem : table.Idempotent)
    (hnodup : (files.slots first).Nodup)
    (hdone : (files.patchAll table false first).failure = none) :
    ((files.patchAll table false first).files.patchAll table false (first ++ second)).failure =
        (files.patchAll table false (first ++ second)).failure ∧
      ((files.patchAll table false first).files.patchAll table false (first ++ second)).files =
        (files.patchAll table false (first ++ second)).files := by
  have hagain : (files.patchAll table false first).files.patchAll table false first = _ :=
    patchAll_again hidem hnodup hdone
  have hnone : ((files.patchAll table false first).files.patchAll table false first).failure =
      none := by rw [hagain]
  rw [patchAll_append hdone, patchAll_append hnone, hagain]
  exact ⟨rfl, rfl⟩

/-! ## Failures without a size limit -/

theorem write_of_unlimited (hlimit : files.sizeLimit = none)
    (hslot : files.slot? path = some location) :
    files.write path content = (.ok (), files.store location content) := by
  rw [write_of_slot hslot, fill_of_kept (by rw [kept, hlimit])]

/-- Without a size limit, and with slots for both, overwriting succeeds. -/
theorem overwrite_of_unlimited {old new : String} {place spare : Location}
    (hlimit : files.sizeLimit = none) (hspare : files.slot? (backupPath path) = some spare)
    (hplace : files.slot? path = some place) :
    files.overwrite path old new =
      (.ok .fixed, (files.store spare (Utf8.encode old)).store place (Utf8.encode new)) := by
  have hlast : (files.store spare (Utf8.encode old)).slot? path = some place := by
    rw [← (sameShape_store (isOpen_of_slot hspare)).slot_eq, hplace]
  have hstored : (files.store spare (Utf8.encode old)).sizeLimit = none := hlimit
  unfold overwrite
  simp only [write_of_unlimited hlimit hspare, write_of_unlimited hstored hlast]

/-- Without a size limit the only write that can fail is that of the backup, which comes
first. -/
theorem overwrite_error_of_unlimited {old new : String} {place : Location}
    (hlimit : files.sizeLimit = none) (hplace : files.slot? path = some place)
    (hfailed : files.overwrite path old new = (.error e, after)) : after = files := by
  cases hspare : files.slot? (backupPath path) with
  | none =>
    obtain ⟨cause, hwrite⟩ := write_of_no_slot hspare
    rw [overwrite, hwrite] at hfailed
    cases hfailed
    rfl
  | some spare =>
    rw [overwrite_of_unlimited hlimit hspare hplace] at hfailed
    cases hfailed

/-- Without a size limit, a patch that fails has changed nothing. -/
theorem patch_error_of_unlimited (hlimit : files.sizeLimit = none)
    (hpatch : files.patch path table dryRun = (.error e, after)) : after = files := by
  unfold patch at hpatch
  cases hread : files.read path with
  | error cause =>
    rw [hread] at hpatch
    cases hpatch
    rfl
  | ok bytes =>
    obtain ⟨place, hplace, -⟩ := read_eq_ok_iff.mp hread
    cases hdecode : Utf8.decode bytes with
    | error fault =>
      simp only [hread, hdecode] at hpatch
      cases hpatch
      rfl
    | ok old =>
      simp only [hread, hdecode] at hpatch
      split_ifs at hpatch
      · cases hpatch
      · cases hpatch
      · exact overwrite_error_of_unlimited hlimit hplace hpatch

/-- Without a size limit, what patching files leaves is what those that could be patched
have come to. -/
theorem patchAll_files_of_unlimited (table : RuleTable) (paths : List Path)
    (hlimit : files.sizeLimit = none) :
    ∃ part, part <+: paths ∧ (files.patchAll table false part).failure = none ∧
      (files.patchAll table false paths).files = (files.patchAll table false part).files := by
  cases hfailure : (files.patchAll table false paths).failure with
  | none => exact ⟨paths, List.prefix_rfl, hfailure, rfl⟩
  | some e =>
    obtain ⟨first, path, second, hsplit, hdone, -, hlast⟩ := exists_failing hfailure
    obtain ⟨log, -, -, hseries⟩ := exists_series hdone
    rw [hseries.sameShape.sizeLimit] at hlimit
    exact ⟨first, hsplit ▸ List.prefix_append _ _, hdone, patch_error_of_unlimited hlimit hlast⟩

end Files

end Emend

import Emend.Proofs.Patch.Series

/-!
# How far patching comes

Files are patched in order up to the first that cannot be patched.  What has been
patched by then stays patched, and what comes after the failure is never looked at,
so that patching a list is patching its first part and going on from there.
-/

namespace Emend.Files

/-- How far the patching of some files has come: the outcomes so far, the failure that
ended it if there was one, and the files that are left. -/
structure Progress where
  done : List (Path × Patched)
  failure : Option Error
  files : Files

/-- Patches files in order, up to the first failure. -/
def patchAll (files : Files) (table : RuleTable) (dryRun : Bool) : List Path → Progress
  | [] => ⟨[], none, files⟩
  | path :: rest =>
    match files.patch path table dryRun with
    | (.error e, files) => ⟨[], some e, files⟩
    | (.ok outcome, files) =>
      let later := files.patchAll table dryRun rest
      ⟨(path, outcome) :: later.done, later.failure, later.files⟩

variable {files after middle : Files} {table : RuleTable} {dryRun : Bool} {path : Path}
  {paths first second : List Path} {e : Error} {outcome : Patched}

theorem patchAll_cons_error (hpatch : files.patch path table dryRun = (.error e, after)) :
    files.patchAll table dryRun (path :: paths) = ⟨[], some e, after⟩ := by
  rw [patchAll, hpatch]

theorem patchAll_cons_ok (hpatch : files.patch path table dryRun = (.ok outcome, after)) :
    files.patchAll table dryRun (path :: paths) =
      ⟨(path, outcome) :: (after.patchAll table dryRun paths).done,
        (after.patchAll table dryRun paths).failure,
        (after.patchAll table dryRun paths).files⟩ := by
  rw [patchAll, hpatch]

/-- Patching goes on where its first part has come to. -/
theorem patchAll_append (hdone : (files.patchAll table dryRun first).failure = none) :
    files.patchAll table dryRun (first ++ second) =
      let middle := files.patchAll table dryRun first
      let later := middle.files.patchAll table dryRun second
      ⟨middle.done ++ later.done, later.failure, later.files⟩ := by
  induction first generalizing files with
  | nil => rfl
  | cons path first ih =>
    rcases hpatch : files.patch path table dryRun with ⟨e | outcome, middle⟩
    · rw [patchAll_cons_error hpatch] at hdone
      cases hdone
    · rw [patchAll_cons_ok hpatch] at hdone
      simp only [List.cons_append, patchAll_cons_ok hpatch, ih hdone]

/-- Files after a failure do not count. -/
theorem patchAll_append_of_failure
    (hfailure : (files.patchAll table dryRun first).failure = some e) :
    files.patchAll table dryRun (first ++ second) = files.patchAll table dryRun first := by
  induction first generalizing files with
  | nil => cases hfailure
  | cons path first ih =>
    rcases hpatch : files.patch path table dryRun with ⟨e | outcome, middle⟩
    · rw [List.cons_append, patchAll_cons_error hpatch, patchAll_cons_error hpatch]
    · rw [patchAll_cons_ok hpatch] at hfailure
      rw [List.cons_append, patchAll_cons_ok hpatch, patchAll_cons_ok hpatch, ih hfailure]

/-- The first part of files that can all be patched can be patched. -/
theorem patchAll_done_of_part (hpart : first <+: paths)
    (hdone : (files.patchAll table dryRun paths).failure = none) :
    (files.patchAll table dryRun first).failure = none := by
  obtain ⟨second, rfl⟩ := hpart
  cases hfailure : (files.patchAll table dryRun first).failure with
  | none => rfl
  | some e =>
    rw [patchAll_append_of_failure hfailure, hfailure] at hdone
    cases hdone

/-- Without a failure, every file has its outcome. -/
theorem map_done_of_done (hdone : (files.patchAll table dryRun paths).failure = none) :
    (files.patchAll table dryRun paths).done.map Prod.fst = paths := by
  induction paths generalizing files with
  | nil => rfl
  | cons path paths ih =>
    rcases hpatch : files.patch path table dryRun with ⟨e | outcome, middle⟩
    · rw [patchAll_cons_error hpatch] at hdone
      cases hdone
    · rw [patchAll_cons_ok hpatch] at hdone ⊢
      rw [List.map_cons, ih hdone]

/-- A failure splits the list at the first file that cannot be patched. -/
theorem exists_failing (hfailure : (files.patchAll table dryRun paths).failure = some e) :
    ∃ first path second, paths = first ++ path :: second ∧
      (files.patchAll table dryRun first).failure = none ∧
      (files.patchAll table dryRun first).done = (files.patchAll table dryRun paths).done ∧
      (files.patchAll table dryRun first).files.patch path table dryRun =
        (.error e, (files.patchAll table dryRun paths).files) := by
  induction paths generalizing files with
  | nil => cases hfailure
  | cons path paths ih =>
    rcases hpatch : files.patch path table dryRun with ⟨cause | outcome, middle⟩
    · rw [patchAll_cons_error hpatch] at hfailure ⊢
      cases hfailure
      exact ⟨[], path, paths, rfl, rfl, rfl, hpatch⟩
    · rw [patchAll_cons_ok hpatch] at hfailure ⊢
      obtain ⟨first, last, second, rfl, hdone, hsame, hlast⟩ := ih hfailure
      refine ⟨path :: first, last, second, rfl, ?_, ?_, ?_⟩
      · rw [patchAll_cons_ok hpatch]
        exact hdone
      · rw [patchAll_cons_ok hpatch, hsame]
      · rw [patchAll_cons_ok hpatch]
        exact hlast

/-- The files that have their outcomes are the first ones, and could be patched alone. -/
theorem patchAll_done (files : Files) (table : RuleTable) (dryRun : Bool) (paths : List Path) :
    (files.patchAll table dryRun paths).done.map Prod.fst <+: paths ∧
      (files.patchAll table dryRun
        ((files.patchAll table dryRun paths).done.map Prod.fst)).failure = none := by
  cases hfailure : (files.patchAll table dryRun paths).failure with
  | none =>
    rw [map_done_of_done hfailure]
    exact ⟨List.prefix_rfl, hfailure⟩
  | some e =>
    obtain ⟨first, path, second, hsplit, hdone, hsame, -⟩ := exists_failing hfailure
    rw [← hsame, map_done_of_done hdone]
    exact ⟨hsplit ▸ List.prefix_append _ _, hdone⟩

end Emend.Files

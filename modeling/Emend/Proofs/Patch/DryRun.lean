import Emend.Proofs.Patch.Repeat

/-!
# Patching without writing

A dry run reads a file and says what patching it would come to.  It writes nothing, so
that it reads every file as it was at the start.  Where no slot is shared, patching
reads every file so as well, and both come to the same outcomes.
-/

namespace Emend.Files

variable {files : Files} {table : RuleTable} {path : Path} {paths : List Path} {text : String}
  {log : List (Path × String)}

/-- A dry run writes nothing, whatever it comes to. -/
theorem patch_dry (files : Files) (path : Path) (table : RuleTable) :
    (files.patch path table true).2 = files := by
  have hpatches := files.patch_patches path table true
  generalize files.patch path table true = result at hpatches
  obtain ⟨outcome, after⟩ := result
  cases hpatches with
  | unreadable | notText | unchanged | foreseen => rfl
  | backupRefused _ hdry | backupCut _ hdry | overwriteCut _ hdry | fixed _ hdry => cases hdry

/-- A dry run leaves the files as they are. -/
theorem patchAll_dry (files : Files) (table : RuleTable) (paths : List Path) :
    (files.patchAll table true paths).files = files := by
  induction paths with
  | nil => rfl
  | cons path paths ih =>
    have hsame := files.patch_dry path table
    rcases hpatch : files.patch path table true with ⟨e | outcome, after⟩
    · rw [patchAll_cons_error hpatch]
      rwa [hpatch] at hsame
    · obtain rfl : after = files := by rwa [hpatch] at hsame
      rw [patchAll_cons_ok hpatch]
      exact ih

/-- What a file holds tells what a dry run says of it. -/
theorem Holds.foreseen (hholds : files.Holds path text) :
    files.patch path table true = (.ok (verdict table text), files) := by
  by_cases hsame : table.apply text = text <;>
    simp [patch, hholds.read, hholds.decode, verdict, hsame]

/-- A dry run tells what the rules make of each text, and writes nothing. -/
theorem patchAll_foreseen (hall : ∀ e ∈ log, files.Holds e.1 e.2) :
    files.patchAll table true (log.map Prod.fst) =
      ⟨log.map fun e => (e.1, verdict table e.2), none, files⟩ := by
  induction log with
  | nil => rfl
  | cons e log ih =>
    have hfirst : files.Holds e.1 e.2 := hall e (by simp)
    rw [List.map_cons, patchAll_cons_ok hfirst.foreseen, ih fun e he => hall e (by simp [he])]
    rfl

/-- Where files that share no slot can be patched, a dry run comes to the same outcomes. -/
theorem patchAll_dry_eq (hnodup : (files.slots paths).Nodup)
    (hdone : (files.patchAll table false paths).failure = none) :
    files.patchAll table true paths =
      ⟨(files.patchAll table false paths).done, none, files⟩ := by
  obtain ⟨log, rfl, hlog, hseries⟩ := exists_series hdone
  rw [hlog]
  apply patchAll_foreseen
  rintro ⟨path, text⟩ hmem
  exact hseries.holds_of_slots hnodup hmem

end Emend.Files

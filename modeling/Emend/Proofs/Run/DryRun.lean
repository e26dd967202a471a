import Emend.Proofs.Patch.DryRun
import Emend.Proofs.Run.Effect
import Emend.Proofs.Run.Ending
import Emend.Proofs.Run.ScanFirst

/-!
# Dry runs

A dry run leaves every tree as it is.  In a tree without links, and with no extension
that takes backups for files, it also tells beforehand what a run will report: the two
differ in nothing but the lines that say whether files are written.
-/

namespace Emend.Run

variable {config : Config} {table : RuleTable} {files : Files} {summary : Summary}
  {after : RunState} {limit : Option Nat}

/-- A dry run changes nothing, whatever it comes to. -/
theorem files_run_dry (config : Config) (files : Files) (limit : Option Nat) :
    (stateOf (run config ⟨true⟩ (start files limit))).files = files := by
  rcases refused_or_accepted config ⟨true⟩ files with
    ⟨e, hrefused⟩ | ⟨hvalid, ⟨table, hcompile⟩, hroot⟩
  · rw [hrefused (start files limit) rfl]
    rfl
  · obtain ⟨part, -, hleft⟩ := exists_patched config table ⟨true⟩
      (encountered config table ⟨true⟩ files) files limit
    rw [run_eq_announce hvalid hcompile hroot, hleft]
    exact files.patchAll_dry table part

/-! ## The lines of a report -/

/-- The lines of a whole report that do not tell whether files are written. -/
def middleLines (config : Config) (table : RuleTable) (done : List (Path × Patched))
    (summary : Summary) : List String :=
  (banner config table ⟨false⟩).tail ++ reportLines done ++ (footer summary ⟨false⟩).dropLast

/-- The last line of a report tells whether files were written. -/
theorem footer_eq (summary : Summary) (options : Options) :
    footer summary options = (footer summary ⟨false⟩).dropLast ++
      [if options.dryRun then "Dry run: no files were written."
        else "Backup copies are saved as *.backup"] := by
  by_cases hskipped : 0 < summary.skipped <;> simp [footer, hskipped]

theorem report_dry (config : Config) (table : RuleTable) (done : List (Path × Patched))
    (summary : Summary) :
    banner config table ⟨true⟩ ++ reportLines done ++ footer summary ⟨true⟩ =
      ["=== repatch ===", "Dry run: no files will be written."] ++
        middleLines config table done summary ++ ["Dry run: no files were written."] := by
  rw [footer_eq summary ⟨true⟩, middleLines]
  simp [banner]

theorem report_wet (config : Config) (table : RuleTable) (done : List (Path × Patched))
    (summary : Summary) :
    banner config table ⟨false⟩ ++ reportLines done ++ footer summary ⟨false⟩ =
      ["=== repatch ==="] ++ middleLines config table done summary ++
        ["Backup copies are saved as *.backup"] := by
  rw [footer_eq summary ⟨false⟩, middleLines]
  simp [banner]

/-- A dry run leaves every tree as it is.  In a tree without links and with no extension
that backups have, where a run ends well a dry run comes to the same counts, and its
report is that of the run with the lines about writing exchanged. -/
theorem run_dry_foretells (config : Config) (files : Files) (limit : Option Nat) :
    (stateOf (run config ⟨true⟩ (start files limit))).files = files ∧
      ∀ summary after, files.tree.WellFormed → files.tree.LinkFree →
        SparesBackups config.extensions →
        run config ⟨false⟩ (start files limit) = .ok summary after →
        ∃ dry lines, run config ⟨true⟩ (start files none) = .ok summary dry ∧
          dry.output.written = bytesOf (["=== repatch ===", "Dry run: no files will be written."] ++
            lines ++ ["Dry run: no files were written."]) ∧
          after.output.written = bytesOf (["=== repatch ==="] ++ lines ++
            ["Backup copies are saved as *.backup"]) := by
  refine ⟨files_run_dry config files limit, fun summary after hwell hfree hspares hrun => ?_⟩
  obtain ⟨table, _, hvalid, hcompile, hroot, -⟩ := run_ok hrun
  rw [run_eq_announce_scan hwell hfree hvalid hcompile hroot] at hrun
  obtain ⟨whole, hwhole, -, hwritten⟩ := announce_ok hrun
  have hdone : (progressOf table ⟨false⟩ files ((Scanner.ofConfig config).scan files)).failure =
      none := by
    rw [← failureOf_announce config, hwhole]
    rfl
  obtain ⟨_, hsame, -, htext⟩ := exists_announce_of_done config hdone
  rw [hwhole] at hsame
  cases hsame
  -- The files share no slots, so the dry run finds in each what the run finds.
  obtain ⟨base, hbase⟩ := Files.isDirectory_iff.mp hroot
  have hforeseen : progressOf table ⟨true⟩ files ((Scanner.ofConfig config).scan files) =
      ⟨(progressOf table ⟨false⟩ files ((Scanner.ofConfig config).scan files)).done, none, files⟩ :=
    Files.patchAll_dry_eq (scan_slots_nodup hwell hfree hspares hbase) hdone
  have hnone : (progressOf table ⟨true⟩ files ((Scanner.ofConfig config).scan files)).failure =
      none := by rw [hforeseen]
  obtain ⟨dry, hdry, -, hreport⟩ := exists_announce_of_done config hnone
  rw [hforeseen] at hdry hreport
  rw [report_wet] at htext
  rw [report_dry] at hreport
  refine ⟨dry, _, ?_, hreport, hwritten.trans htext⟩
  rw [run_eq_announce_scan hwell hfree hvalid hcompile hroot]
  exact hdry

theorem run_dry_foretells_letter :
    letterTree.tree.WellFormed ∧ letterTree.tree.LinkFree ∧
      SparesBackups letterConfig.extensions ∧
      ∃ after, run letterConfig ⟨false⟩ (start letterTree none) = .ok ⟨1, 1, 0⟩ after ∧
        ∃ dry lines, run letterConfig ⟨true⟩ (start letterTree none) = .ok ⟨1, 1, 0⟩ dry ∧
          dry.output.written = bytesOf (["=== repatch ===", "Dry run: no files will be written."] ++
            lines ++ ["Dry run: no files were written."]) ∧
          after.output.written = bytesOf (["=== repatch ==="] ++ lines ++
            ["Backup copies are saved as *.backup"]) := by
  obtain ⟨after, hrun⟩ := exists_run_letter
  exact ⟨wellFormed_letterTree, linkFree_letterTree, sparesBackups_letterConfig, after, hrun,
    (run_dry_foretells letterConfig letterTree none).2 _ after wellFormed_letterTree
      linkFree_letterTree sparesBackups_letterConfig hrun⟩

end Emend.Run

import Emend.Proofs.Run.Effect
import Emend.Proofs.Run.Stages

/-!
# Scanning first

A run goes on scanning while it patches, and every backup that it makes is one file
more in the tree.  In a tree without links no backup comes into a listing that is still
to be read.  The run is therefore the same as if the scan had been over before the
first file was patched, even where the scan looks for backups: it deals with those that
were there at the start, and never with one that it has made.
-/

namespace Emend

namespace Files

def Stands (files : Files) (path : Path) : Prop :=
  ∀ location, files.slot? path = some location →
    ∃ content, files.tree.entry? location = some (.file content)

end Files

namespace Run

variable {config : Config} {table : RuleTable} {options : Options} {files : Files}
  {scanner : Scanner} {path : Path} {base : Location} {limit : Option Nat}

/-- Without links, a file that a scan finds stands where its path leads. -/
theorem stands_of_scan (hwell : files.tree.WellFormed) (hfree : files.tree.LinkFree)
    (hbase : files.directoryAt? scanner.root = some base)
    (hfound : .file path ∈ scanner.scan files) : files.Stands path := by
  intro location hslot
  obtain ⟨names, name, entry, rfl, hproper, hdescends, hentry, hkind, -⟩ :=
    Scanner.exists_of_scan hwell hbase hfound
  have hlocation : location = base ++ (names ++ [name]) :=
    Files.slot_below hbase (fun part hpart => hproper part (by simp [hpart]))
      (hproper name (by simp)) hdescends (hfree _) hslot
  cases entry with
  | file content => exact ⟨content, hlocation ▸ hentry⟩
  | directory => simp [Entry.kind] at hkind
  | link target => exact absurd hentry (hfree _ target)

/-- Patching what a scan finds while the scan goes on is patching it when the scan is
over: the result, the output, the warnings and the files are the same.  Every file that
is patched has stood there from the start, so that none is a backup that the run has
made.  A run whose root is no directory does not come to a scan. -/
theorem run_scans_first (hwell : files.tree.WellFormed) (hfree : files.tree.LinkFree)
    (hvalid : config.validate = .ok ()) (hcompile : RuleTable.compile config.rules = .ok table)
    (options : Options) (limit : Option Nat) :
    (files.isDirectory config.root = true →
      run config options (start files limit) =
          announce config table options ((Scanner.ofConfig config).scan files)
            (start files limit) ∧
        ∀ path ∈ filePaths ((Scanner.ofConfig config).scan files), files.Stands path) ∧
    (files.isDirectory config.root = false →
      run config options (start files limit) =
        .error (.rootNotDirectory config.root) (start files limit)) := by
  constructor
  · intro hroot
    obtain ⟨base, hbase⟩ := Files.isDirectory_iff.mp hroot
    refine ⟨run_eq_announce_scan hwell hfree hvalid hcompile hroot limit, fun path hpath => ?_⟩
    exact stands_of_scan hwell hfree hbase (Scanner.mem_files_iff.mp hpath)
  · intro hroot
    exact run_of_no_directory hvalid hcompile hroot

def letterBackupConfig : Config := { letterConfig with extensions := ["hx", "backup"] }

theorem run_scans_first_letter :
    letterTree.tree.WellFormed ∧ letterTree.tree.LinkFree ∧
      letterBackupConfig.validate = .ok () ∧
      RuleTable.compile letterBackupConfig.rules = .ok [Files.letterRule] ∧
      letterTree.isDirectory letterBackupConfig.root = true ∧
      run letterBackupConfig ⟨false⟩ (start letterTree (some 80)) =
          announce letterBackupConfig [Files.letterRule] ⟨false⟩
            ((Scanner.ofConfig letterBackupConfig).scan letterTree)
            (start letterTree (some 80)) ∧
        ∀ path ∈ filePaths ((Scanner.ofConfig letterBackupConfig).scan letterTree),
          letterTree.Stands path := by
  have hvalid : letterBackupConfig.validate = .ok () := by cbv
  have hroot : letterTree.isDirectory letterBackupConfig.root = true := by cbv
  have hrun := run_scans_first wellFormed_letterTree linkFree_letterTree hvalid
    compile_letterConfig ⟨false⟩ (some 80)
  exact ⟨wellFormed_letterTree, linkFree_letterTree, hvalid, compile_letterConfig, hroot,
    hrun.1 hroot⟩

def bareFiles : Files := ⟨Tree.empty, [], none⟩

/-- Without its root, a run is refused, while the reports of a scan would be dealt with. -/
theorem run_ne_announce_missing :
    bareFiles.tree.WellFormed ∧ bareFiles.tree.LinkFree ∧ letterConfig.validate = .ok () ∧
      RuleTable.compile letterConfig.rules = .ok [Files.letterRule] ∧
      run letterConfig ⟨false⟩ (start bareFiles none) ≠
        announce letterConfig [Files.letterRule] ⟨false⟩
          ((Scanner.ofConfig letterConfig).scan bareFiles) (start bareFiles none) := by
  have hvalid : letterConfig.validate = .ok () := by cbv
  have hroot : bareFiles.isDirectory letterConfig.root = false := by cbv
  have hscan : (Scanner.ofConfig letterConfig).scan bareFiles =
      [Scanner.skip (Path.ofString "s") .notFound] := by cbv
  refine ⟨by decide +kernel, ?_, hvalid, compile_letterConfig, ?_⟩
  · exact Tree.linkFree_of_entries (by simp [bareFiles, Tree.empty])
  · rw [run_of_no_directory hvalid compile_letterConfig hroot, hscan, announce, bind_apply,
      forM_print_unlimited rfl]
    simp only
    rw [patchEntries_of_done _ rfl rfl]
    intro hequal
    cases hequal

end Run

end Emend

import Emend.Proofs.Run.Ending
import Emend.Proofs.Scan.Backups

/-!
# The effect of a run

In a tree without links, and with no extension that takes backups for files, the
files that a run patches are kept apart from each other and from all backups.  A run
that ends well then does to every file what patching it alone does.
-/

namespace Emend.Run

variable {scanner : Scanner} {table : RuleTable} {config : Config} {files : Files}
  {summary : Summary} {after : RunState} {limit : Option Nat} {base : Location} {path : Path}

/-- What a scan finds below a directory is reached through directories alone. -/
theorem beneath_of_scan (hwell : files.tree.WellFormed)
    (hbase : files.directoryAt? scanner.root = some base)
    (hfound : .file path ∈ scanner.scan files) :
    files.Beneath scanner.root base path ∧ scanner.wants path = true := by
  obtain ⟨names, name, _, heq, hproper, hdescends, -, -, hwants⟩ :=
    Scanner.exists_of_scan hwell hbase hfound
  exact ⟨⟨names, name, heq, hproper, hdescends⟩, hwants⟩

/-- The files that a scan finds and their backups share no slot. -/
theorem scan_slots_nodup (hwell : files.tree.WellFormed) (hfree : files.tree.LinkFree)
    (hspares : SparesBackups config.extensions)
    (hbase : files.directoryAt? config.root = some base) :
    (files.slots (((Scanner.ofConfig config).scan files).filterMap Scanned.file?)).Nodup := by
  have hfound {path : Path}
      (hpath : path ∈ ((Scanner.ofConfig config).scan files).filterMap Scanned.file?) :=
    beneath_of_scan hwell hbase (Scanner.mem_files_iff.mp hpath)
  apply Files.slots_nodup hfree hbase (Scanner.files_nodup hwell _)
  · exact fun path hpath => (hfound hpath).1
  · intro path hpath hbackup
    have hwants := (hfound hbackup).2
    rw [Scanner.ofConfig, Scanner.wants_backupPath _ hspares] at hwants
    cases hwants

/-- What a run has done to a tree: each file of the log was found by the scan and held
its text, and was either fixed or left alone. -/
structure Effect (config : Config) (table : RuleTable) (log : List (Path × String))
    (files : Files) (summary : Summary) (after : RunState) : Prop where
  paths : log.map Prod.fst = ((Scanner.ofConfig config).scan files).filterMap Scanned.file?
  holds : ∀ e ∈ log, files.Holds e.1 e.2
  /-- A text that the rules change is saved, and the new one written. -/
  fixed : ∀ e ∈ log, table.apply e.2 ≠ e.2 →
    after.files.read e.1 = .ok (Utf8.encode (table.apply e.2)) ∧
      after.files.read (backupPath e.1) = .ok (Utf8.encode e.2)
  /-- A text that stays leaves its file and the backup of it alone. -/
  unchanged : ∀ e ∈ log, table.apply e.2 = e.2 → ∀ location, location ∈ files.slots [e.1] →
    after.files.tree.entry? location = files.tree.entry? location
  shape : files.SameShape after.files
  /-- Nothing else has changed. -/
  frame : ∀ location,
    (∀ e ∈ log, table.apply e.2 ≠ e.2 → location ∉ files.slots [e.1]) →
      after.files.tree.entry? location = files.tree.entry? location
  fixed_count : summary.fixed = log.countP fun e => table.apply e.2 ≠ e.2
  unchanged_count : summary.unchanged = log.countP fun e => table.apply e.2 = e.2
  skipped_count : summary.skipped =
    (((Scanner.ofConfig config).scan files).filterMap Scanned.skipped?).length
  /-- There is one line for each file, in the order of the scan. -/
  output : after.output.written = bytesOf (banner config table ⟨false⟩ ++
    log.map (fun e =>
      (if table.apply e.2 = e.2 then "[OK]    " else "[FIXED] ") ++ e.1.display) ++
    footer summary ⟨false⟩)

/-- The exact effect of a run that ends well, in a tree without links and with no
extension that backups have. -/
theorem run_effect (hwell : files.tree.WellFormed) (hfree : files.tree.LinkFree)
    (hspares : SparesBackups config.extensions)
    (hrun : run config ⟨false⟩ (start files limit) = .ok summary after) :
    ∃ table log, RuleTable.compile config.rules = .ok table ∧
      Effect config table log files summary after := by
  obtain ⟨table, middle, -, hcompile, hroot, hbelow, rfl, rfl⟩ := run_ok hrun
  obtain ⟨base, hbase⟩ := Files.isDirectory_iff.mp hroot
  have hscan : patchBelow (.ofConfig config) table ⟨false⟩ Files.pathLimit
      (.root (Scanner.ofConfig config).root)
      (printed (start files limit) (banner config table ⟨false⟩)) =
      ((Scanner.ofConfig config).scan files).forM (handle table ⟨false⟩)
        (printed (start files limit) (banner config table ⟨false⟩)) :=
    patchBelow_eq_scan hwell hfree hroot
  obtain ⟨log, hlogged⟩ := exists_logged hscan hbelow
  have hslots : (files.slots (log.map Prod.fst)).Nodup := by
    rw [hlogged.paths]
    exact scan_slots_nodup hwell hfree hspares hbase
  refine ⟨table, log, hcompile, hlogged.paths, ?_, ?_, ?_, hlogged.series.sameShape, ?_, ?_, ?_,
    ?_, ?_⟩
  · intro e hmem
    exact hlogged.series.holds_of_slots hslots hmem
  · intro e hmem hne
    have hnodup := hslots.sublist (files.map_writes_sublist table log)
    have honce (location : Location) :
        ((files.writes table log).map (·.1)).count location ≤ 1 :=
      List.nodup_iff_count_le_one.mp hnodup location
    exact hlogged.series.reads_of_once (fun location _ => honce location) hmem hne
  · intro e hmem hsame location hlocation
    exact hlogged.series.entry_of_slots hslots hmem hsame hlocation
  · intro location huntouched
    exact hlogged.series.entry_of_untouched huntouched
  · rw [hlogged.counts]
    exact Nat.zero_add _
  · rw [hlogged.counts]
    exact Nat.zero_add _
  · rw [hlogged.counts]
    exact Nat.zero_add _
  · rw [← linesOf_eq]
    exact hlogged.output

def letterConfig : Config := ⟨Path.ofString "s", ["hx"], [⟨"a", "b"⟩]⟩

theorem compile_letterConfig :
    RuleTable.compile letterConfig.rules = .ok [Files.letterRule] := by
  have hrule : CompiledRule.ofRule ⟨"a", "b"⟩ = .ok Files.letterRule := by cbv
  simp only [letterConfig, RuleTable.compile, List.mapM_cons, hrule]
  rfl

theorem sparesBackups_letterConfig : SparesBackups letterConfig.extensions := by
  unfold SparesBackups
  decide +kernel

/-- A directory with a file that the letter rule changes and a file that it leaves. -/
def letterTree : Files :=
  let name := Path.ofString
  ⟨⟨[([name "s"], .directory), ([name "s", name "A.hx"], .file (Utf8.encode "a")),
    ([name "s", name "B.hx"], .file (Utf8.encode "c"))]⟩, [], none⟩

theorem wellFormed_letterTree : letterTree.tree.WellFormed := by
  decide +kernel

theorem linkFree_letterTree : letterTree.tree.LinkFree := by
  apply Tree.linkFree_of_entries
  simp [letterTree]

theorem exists_run_letter :
    ∃ after, run letterConfig ⟨false⟩ (start letterTree none) = .ok ⟨1, 1, 0⟩ after := by
  have hscan : (Scanner.ofConfig letterConfig).scan letterTree =
      [.file (Path.ofString "s/A.hx"), .file (Path.ofString "s/B.hx")] := by cbv
  have hfirst : letterTree.patch (Path.ofString "s/A.hx") [Files.letterRule] false =
      (.ok .fixed, (letterTree.overwrite (Path.ofString "s/A.hx") "a" "b").2) := by
    rw [Files.patch_letter (by cbv)]
    exact Prod.ext (by cbv) rfl
  have hholds : (letterTree.overwrite (Path.ofString "s/A.hx") "a" "b").2.Holds
      (Path.ofString "s/B.hx") "c" := ⟨by cbv, by cbv⟩
  have hprogress : progressOf [Files.letterRule] ⟨false⟩ letterTree
      [.file (Path.ofString "s/A.hx"), .file (Path.ofString "s/B.hx")] =
        ⟨[(Path.ofString "s/A.hx", .fixed), (Path.ofString "s/B.hx", .unchanged)], none,
          (letterTree.overwrite (Path.ofString "s/A.hx") "a" "b").2⟩ := by
    rw [progressOf_ok hfirst, progressOf_ok (hholds.patch_eq Files.letterRule_leaves)]
    rfl
  obtain ⟨after, hrun, -⟩ := exists_run_of_scan wellFormed_letterTree linkFree_letterTree
    (by cbv) compile_letterConfig (by cbv) hscan hprogress
  exact ⟨after, hrun⟩

theorem run_effect_letter :
    letterTree.tree.WellFormed ∧ letterTree.tree.LinkFree ∧
      SparesBackups letterConfig.extensions ∧
      ∃ after, run letterConfig ⟨false⟩ (start letterTree none) = .ok ⟨1, 1, 0⟩ after ∧
        ∃ table log, RuleTable.compile letterConfig.rules = .ok table ∧
          Effect letterConfig table log letterTree ⟨1, 1, 0⟩ after := by
  obtain ⟨after, hrun⟩ := exists_run_letter
  exact ⟨wellFormed_letterTree, linkFree_letterTree, sparesBackups_letterConfig, after, hrun,
    run_effect wellFormed_letterTree linkFree_letterTree sparesBackups_letterConfig hrun⟩

end Emend.Run

import Emend.Proofs.Pattern.BuiltIn
import Emend.Proofs.Pattern.Letters
import Emend.Proofs.Run.Effect
import Emend.Proofs.Run.Ending
import Emend.Proofs.Run.ScanFirst
import Emend.Proofs.Scan.Growth

/-!
# Runs after runs

With rules that are idempotent, in a tree without links and with no extension that
takes backups for files, a run finds nothing to do where another has been.  The tree
scans as before, and every file that was patched holds what the rules leave as it is.
-/

namespace Emend.Run

variable {config : Config} {table : RuleTable} {options : Options} {files : Files}
  {entries : List Scanned} {first second : Summary} {after again : RunState}
  {limit : Option Nat} {paths part : List Path} {base : Location}

/-! ## Trees that have been patched -/

/-- The files that a run is about are what another run finds again. -/
structure Rescans (config : Config) (files after : Files) : Prop where
  wellFormed : after.tree.WellFormed
  linkFree : after.tree.LinkFree
  root : after.isDirectory config.root = true
  scan : (Scanner.ofConfig config).scan after = (Scanner.ofConfig config).scan files

/-- The first files of a scan share no slots, and when they have been patched the tree
scans as before. -/
theorem rescans_of_part (hwell : files.tree.WellFormed) (hfree : files.tree.LinkFree)
    (hspares : SparesBackups config.extensions) (hroot : files.isDirectory config.root = true)
    (hpart : part <+: filePaths ((Scanner.ofConfig config).scan files))
    (hdone : (files.patchAll table false part).failure = none) :
    (files.slots part).Nodup ∧
      Rescans config files (files.patchAll table false part).files := by
  obtain ⟨base, hbase⟩ := Files.isDirectory_iff.mp hroot
  have hslots : (files.slots (filePaths ((Scanner.ofConfig config).scan files))).Nodup :=
    scan_slots_nodup hwell hfree hspares hbase
  have hbeneath : ∀ path ∈ part, files.Beneath config.root base path := fun path hpath =>
    (beneath_of_scan hwell hbase (Scanner.mem_files_iff.mp (hpart.subset hpath))).1
  obtain ⟨log, rfl, -, hseries⟩ := Files.exists_series hdone
  have hlog : ∀ e ∈ log, files.Beneath config.root base e.1 := fun e he =>
    hbeneath e.1 (List.mem_map_of_mem he)
  have hwell' := hseries.wellFormed hwell hfree hbase hlog
  have hgrown : Scanner.Grown (.ofConfig config) base files _ :=
    .of_series hfree hbase hlog (fun e _ => Scanner.wants_backupPath _ hspares e.1) hseries
  refine ⟨?_, hwell', hseries.sameShape.tree.linkFree hfree, ?_,
    hgrown.scan_eq hwell hwell' hfree hbase⟩
  · obtain ⟨rest, hrest⟩ := hpart
    rw [← hrest, Files.slots_append] at hslots
    exact hslots.sublist (List.sublist_append_left _ _)
  · exact Files.isDirectory_iff.mpr ⟨base, hgrown.shape.directoryAt_eq ▸ hbase⟩

/-- How a run compares with the run before it that ended well. -/
structure Repeats (config : Config) (table : RuleTable) (files : Files) (first : Summary)
    (after : RunState) (second : Summary) (again : RunState) : Prop where
  fixed : second.fixed = 0
  unchanged : second.unchanged = first.fixed + first.unchanged
  skipped : second.skipped = first.skipped
  /-- Nothing in the tree has changed, not even a backup. -/
  kept : again.files = after.files
  /-- The same files are reported in the same order, all of them as unchanged. -/
  output : ∃ done : List (Path × Patched),
    done.map Prod.fst = filePaths ((Scanner.ofConfig config).scan files) ∧
    after.output.written = bytesOf (banner config table ⟨false⟩ ++
      done.map (fun e => (if e.2 = .fixed then "[FIXED] " else "[OK]    ") ++ e.1.display) ++
      footer first ⟨false⟩) ∧
    again.output.written = bytesOf (banner config table ⟨false⟩ ++
      done.map (fun e => "[OK]    " ++ e.1.display) ++ footer second ⟨false⟩)

theorem tally_unchanged (paths : List Path) (skipped : Nat) :
    tally ⟨0, 0, 0⟩ (paths.map fun path => (path, .unchanged)) skipped =
      ⟨0, paths.length, skipped⟩ := by
  simp [tally, List.countP_map, Function.comp_def]

/-- The built-in rules need not be assumed to be idempotent. -/
theorem idempotent_of_builtIn (hcompile : RuleTable.compile config.rules = .ok table)
    (hidem : table.Idempotent ∨ config.rules = Rule.builtIn) : table.Idempotent := by
  rcases hidem with hidem | hbuiltIn
  · exact hidem
  · rw [hbuiltIn, RuleTable.compile_builtIn] at hcompile
    cases hcompile
    exact RuleTable.apply_builtIn_again

/-- A run with idempotent rules, such as the built-in ones, that follows a run that ended
well is a no-op. -/
theorem run_again (hwell : files.tree.WellFormed) (hfree : files.tree.LinkFree)
    (hspares : SparesBackups config.extensions)
    (hcompile : RuleTable.compile config.rules = .ok table)
    (hrules : table.Idempotent ∨ config.rules = Rule.builtIn)
    (hrun : run config ⟨false⟩ (start files limit) = .ok first after) :
    ∃ second again, run config ⟨false⟩ (start after.files none) = .ok second again ∧
      Repeats config table files first after second again := by
  have hidem := idempotent_of_builtIn hcompile hrules
  obtain ⟨_, _, hvalid, -, hroot, -⟩ := run_ok hrun
  rw [run_eq_announce_scan hwell hfree hvalid hcompile hroot] at hrun
  obtain ⟨whole, hwhole, hfiles, hwritten⟩ := announce_ok hrun
  have hdone : (progressOf table ⟨false⟩ files ((Scanner.ofConfig config).scan files)).failure =
      none := by
    rw [← failureOf_announce config, hwhole]
    rfl
  obtain ⟨_, hsame, hleft, htext⟩ := exists_announce_of_done config hdone
  rw [hwhole] at hsame
  cases hsame
  obtain ⟨hslots, hrescans⟩ :=
    rescans_of_part hwell hfree hspares hroot List.prefix_rfl hdone
  have hpatched : after.files =
      (files.patchAll table false (filePaths ((Scanner.ofConfig config).scan files))).files :=
    hfiles.trans hleft
  rw [← hpatched] at hrescans
  have hagain : progressOf table ⟨false⟩ after.files ((Scanner.ofConfig config).scan after.files) =
      ⟨(filePaths ((Scanner.ofConfig config).scan files)).map fun path => (path, .unchanged), none,
        after.files⟩ := by
    rw [hrescans.scan, progressOf, hpatched]
    exact Files.patchAll_again hidem hslots hdone
  have hnone : (progressOf table ⟨false⟩ after.files
      ((Scanner.ofConfig config).scan after.files)).failure = none := by
    rw [hagain]
  obtain ⟨again, hok, hkept, htext'⟩ := exists_announce_of_done config hnone
  rw [hagain, tally_unchanged, hrescans.scan] at hok htext'
  rw [hagain] at hkept
  have hsecond : run config ⟨false⟩ (start after.files none) = _ :=
    run_eq_announce_scan hrescans.wellFormed hrescans.linkFree hvalid hcompile hrescans.root none
  rw [hrescans.scan, hok] at hsecond
  have hpaths : (progressOf table ⟨false⟩ files
      ((Scanner.ofConfig config).scan files)).done.map Prod.fst =
        filePaths ((Scanner.ofConfig config).scan files) := Files.map_done_of_done hdone
  have hlines := reportLines_unchanged
    (progressOf table ⟨false⟩ files ((Scanner.ofConfig config).scan files)).done
  rw [hpaths] at hlines
  refine ⟨_, again, hsecond, rfl, ?_, (Nat.zero_add _).symm, hkept, _, hpaths, ?_, ?_⟩
  · rw [tally_length, ← hpaths, List.length_map]
    exact (Nat.zero_add _).symm
  · rw [hwritten, htext, reportLines_eq]
  · rw [← hlines]
    exact htext'

theorem idempotent_letterRule : RuleTable.Idempotent [Files.letterRule] := by
  have hletters : ∀ c ∈ ['b'], (CharSet.singleton 'a').contains c = false := by
    simp [CharSet.singleton, CharSet.contains, CharSet.holds]
  exact fun text => Pattern.replaceAll_set_idempotent rfl hletters text

theorem run_again_letter :
    letterTree.tree.WellFormed ∧ letterTree.tree.LinkFree ∧
      SparesBackups letterConfig.extensions ∧
      RuleTable.compile letterConfig.rules = .ok [Files.letterRule] ∧
      (RuleTable.Idempotent [Files.letterRule] ∨ letterConfig.rules = Rule.builtIn) ∧
      ∃ after, run letterConfig ⟨false⟩ (start letterTree none) = .ok ⟨1, 1, 0⟩ after ∧
        ∃ second again, run letterConfig ⟨false⟩ (start after.files none) = .ok second again ∧
          Repeats letterConfig [Files.letterRule] letterTree ⟨1, 1, 0⟩ after second again := by
  obtain ⟨after, hrun⟩ := exists_run_letter
  exact ⟨wellFormed_letterTree, linkFree_letterTree, sparesBackups_letterConfig,
    compile_letterConfig, .inl idempotent_letterRule, after, hrun,
    run_again wellFormed_letterTree linkFree_letterTree sparesBackups_letterConfig
      compile_letterConfig (.inl idempotent_letterRule) hrun⟩

end Emend.Run

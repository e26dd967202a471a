import Emend.Proofs.Run.Repeat

/-!
# Going on after a run that was cut off

A run whose output fails has patched the first of the files that a scan finds, and so
has a run that cannot patch one.  The next run finds the same files, has nothing to do
in those that have been patched, and goes on with the others as the first would have
done.
-/

namespace Emend.Run

variable {config : Config} {table : RuleTable} {options : Options} {files : Files}
  {entries : List Scanned} {n : Nat}

def runAfter (config : Config) (options : Options) (files : Files) (n : Nat) :
    EStateM.Result Error RunState Summary :=
  run config options (start (stateOf (run config options (start files (some n)))).files none)

/-- Wherever its output fails, a run leaves what patching the first of its files comes to.
Without a size limit the same holds of a run that cannot patch a file. -/
theorem exists_part (hroom : files.sizeLimit = none ∨
      n < (textOf (announce config table ⟨false⟩ entries (start files none))).length) :
    ∃ part, part <+: filePaths entries ∧ (files.patchAll table false part).failure = none ∧
      (stateOf (announce config table ⟨false⟩ entries (start files (some n)))).files =
        (files.patchAll table false part).files := by
  by_cases hcut : n < (textOf (announce config table ⟨false⟩ entries (start files none))).length
  · obtain ⟨after, hafter, -, hleft⟩ := announce_cutOff hcut
    obtain ⟨hfirst, hdone⟩ := Files.patchAll_done files table false (filePaths entries)
    have hstarted := startedBy_first n (bytesOf (banner config table ⟨false⟩)).length
      (progressOf table ⟨false⟩ files entries).done
    rw [hafter]
    exact ⟨_, hstarted.trans hfirst, Files.patchAll_done_of_part hstarted hdone, hleft⟩
  · obtain ⟨part, hpart, hdone, hleft⟩ := Files.patchAll_files_of_unlimited table
      (filePaths entries) (hroom.resolve_right hcut)
    refine ⟨part, hpart, hdone, ?_⟩
    rw [announce_fits (Nat.not_lt.mp hcut), files_limitedResult, (announce_account ..).2]
    exact hleft

/-- A run that is cut off can be resumed: the next run leaves the same files as one run
that is not cut off, and it ends in the same way.  Only a write that fails in the middle
of a file could make a difference, and no write does without a size limit. -/
theorem run_resumed (hwell : files.tree.WellFormed) (hfree : files.tree.LinkFree)
    (hspares : SparesBackups config.extensions)
    (hcompile : RuleTable.compile config.rules = .ok table) (hidem : table.Idempotent)
    (hroom : files.sizeLimit = none ∨
      n < (textOf (run config ⟨false⟩ (start files none))).length) :
    (stateOf (runAfter config ⟨false⟩ files n)).files =
        (stateOf (run config ⟨false⟩ (start files none))).files ∧
      failureOf (runAfter config ⟨false⟩ files n) =
        failureOf (run config ⟨false⟩ (start files none)) := by
  rcases refused_or_accepted config ⟨false⟩ files with ⟨e, hrefused⟩ | ⟨hvalid, -, hroot⟩
  · have hafter : runAfter config ⟨false⟩ files n = run config ⟨false⟩ (start files none) := by
      rw [runAfter, hrefused (start files (some n)) rfl]
      rfl
    rw [hafter]
    exact ⟨rfl, rfl⟩
  · have hrun : ∀ limit, run config ⟨false⟩ (start files limit) = _ :=
      run_eq_announce_scan hwell hfree hvalid hcompile hroot
    rw [hrun] at hroom
    obtain ⟨part, ⟨rest, hsplit⟩, hdone, hleft⟩ := exists_part hroom
    obtain ⟨hslots, hrescans⟩ :=
      rescans_of_part hwell hfree hspares hroot ⟨rest, hsplit⟩ hdone
    have hnext : run config ⟨false⟩ (start (files.patchAll table false part).files none) = _ :=
      run_eq_announce_scan hrescans.wellFormed hrescans.linkFree hvalid hcompile
        hrescans.root none
    obtain ⟨hfailure, hfiles⟩ := Files.patchAll_resumed rest hidem hslots hdone
    rw [hsplit] at hfailure hfiles
    rw [runAfter, hrun, hleft, hnext, hrescans.scan, hrun, (announce_account ..).2, (announce_account ..).2,
      failureOf_announce, failureOf_announce]
    exact ⟨hfiles, hfailure⟩

/-- The output fails at the first line, just after its file has been patched. -/
theorem run_resumed_letter :
    letterTree.tree.WellFormed ∧ letterTree.tree.LinkFree ∧
      SparesBackups letterConfig.extensions ∧
      RuleTable.compile letterConfig.rules = .ok [Files.letterRule] ∧
      RuleTable.Idempotent [Files.letterRule] ∧ letterTree.sizeLimit = none ∧
      let n := (bytesOf (banner letterConfig [Files.letterRule] ⟨false⟩)).length
      (stateOf (runAfter letterConfig ⟨false⟩ letterTree n)).files =
          (stateOf (run letterConfig ⟨false⟩ (start letterTree none))).files ∧
        failureOf (runAfter letterConfig ⟨false⟩ letterTree n) =
          failureOf (run letterConfig ⟨false⟩ (start letterTree none)) :=
  ⟨wellFormed_letterTree, linkFree_letterTree, sparesBackups_letterConfig, compile_letterConfig,
    idempotent_letterRule, rfl,
    run_resumed wellFormed_letterTree linkFree_letterTree sparesBackups_letterConfig
      compile_letterConfig idempotent_letterRule (.inl rfl)⟩

end Emend.Run

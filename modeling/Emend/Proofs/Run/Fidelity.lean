import Emend.Proofs.Run.Effect

/-!
# Backups after a run

A backup is there to give the text back that a file held before a run.  A run writes
wherever a path leads, though, and two paths may lead to one file.  What a backup
reads in the end depends on what the run wrote last, there and at the file itself.
-/

namespace Emend.Run

variable {config : Config} {table : RuleTable} {log : List (Path × String)}
  {files before after : Files} {summary : Summary} {limit : Option Nat} {path : Path}
  {text : String}

/-- The backup of a path reads what the path read before, and the path reads something
else. -/
def Faithful (before after : Files) (path : Path) : Prop :=
  ∃ old new, before.read path = .ok old ∧ after.read (backupPath path) = .ok old ∧
    after.read path = .ok new ∧ old ≠ new

/-- Of some writes, the last one to the backup of a path is what the path reads before
them, and the last one to the path is not. -/
def SavesLast (files : Files) (writes : List (Location × Bytes)) (path : Path) : Prop :=
  ∃ old, files.read path = .ok old ∧
    files.lastWritten? writes (backupPath path) = some old ∧
    files.lastWritten? writes path ≠ some old

/-- The backup of a fixed file is faithful if and only if the last writes make it so. -/
theorem faithful_iff (hseries : Files.Series table log before after)
    (hmem : (path, text) ∈ log) (hne : table.apply text ≠ text) :
    Faithful before after path ↔ SavesLast before (before.writes table log) path := by
  obtain ⟨place, spare, hplace, hspare⟩ := hseries.exists_slots hmem hne
  obtain ⟨hsaved, hstored⟩ := Files.mem_writes hmem hne hplace hspare
  have hwritten : place ∈ (before.writes table log).map (·.1) := List.mem_map_of_mem hstored
  have hpath {content : Bytes} : after.read path = .ok content ↔ _ :=
    hseries.read_eq_ok_iff_of_mem hplace hwritten
  have hbackup {content : Bytes} : after.read (backupPath path) = .ok content ↔ _ :=
    hseries.read_eq_ok_iff_of_mem hspare (List.mem_map_of_mem hsaved)
  constructor
  · rintro ⟨old, new, hold, hcopy, hnew, hdiffer⟩
    refine ⟨old, hold, hbackup.mp hcopy, ?_⟩
    rw [hpath.mp hnew, ne_eq, Option.some.injEq]
    exact hdiffer.symm
  · rintro ⟨old, hold, hcopy, hdiffer⟩
    obtain ⟨new, hlast⟩ := Files.exists_lastWrite hwritten
    have hnew : before.lastWritten? (before.writes table log) path = some new := by
      rw [Files.lastWritten?, hplace, Option.bind_some, hlast]
    refine ⟨old, new, hold, hbackup.mpr hcopy, hpath.mpr hnew, ?_⟩
    rintro rfl
    exact hdiffer hnew

/-- A fixed file whose slots are written once has a faithful backup. -/
theorem faithful_of_once (hseries : Files.Series table log before after)
    (honce : ∀ location ∈ before.slots [path],
      ((before.writes table log).map (·.1)).count location ≤ 1)
    (hmem : (path, text) ∈ log) (hne : table.apply text ≠ text) :
    Faithful before after path := by
  have hholds := hseries.holds_of_once honce hmem hne
  obtain ⟨hnew, hcopy⟩ := hseries.reads_of_once honce hmem hne
  refine ⟨_, _, hholds.read, hcopy, hnew, fun hsame => hne ?_⟩
  exact (Utf8.encode_injective hsame).symm

/-- The backups of a run that ends well, in any tree.  A fixed file has a faithful backup
exactly when what it read at the start is written last to its backup and not to the file
itself, and it has if nothing else is written to either. -/
theorem run_fidelity {after : RunState}
    (hrun : run config ⟨false⟩ (start files limit) = .ok summary after) :
    ∃ table entries log, RuleTable.compile config.rules = .ok table ∧
      Logged config table entries log files summary after ∧
      ∀ e ∈ log, table.apply e.2 ≠ e.2 →
        (Faithful files after.files e.1 ↔ SavesLast files (files.writes table log) e.1) ∧
        ((∀ location ∈ files.slots [e.1],
          ((files.writes table log).map (·.1)).count location ≤ 1) →
            Faithful files after.files e.1) := by
  obtain ⟨table, middle, -, hcompile, -, hbelow, rfl, rfl⟩ := run_ok hrun
  obtain ⟨entries, hentries⟩ := exists_entries (.ofConfig config) table ⟨false⟩
    Files.pathLimit (.root config.root) (printed (start files limit) (banner config table ⟨false⟩))
  obtain ⟨log, hlogged⟩ := exists_logged hentries hbelow
  refine ⟨table, entries, log, hcompile, hlogged, fun e hmem hne => ⟨?_, fun honce => ?_⟩⟩
  · exact faithful_iff hlogged.series hmem hne
  · exact faithful_of_once hlogged.series honce hmem hne

theorem run_fidelity_letter :
    ∃ after, run letterConfig ⟨false⟩ (start letterTree none) = .ok ⟨1, 1, 0⟩ after ∧
      ∃ table entries log, RuleTable.compile letterConfig.rules = .ok table ∧
        Logged letterConfig table entries log letterTree ⟨1, 1, 0⟩ after ∧
        ∀ e ∈ log, table.apply e.2 ≠ e.2 →
          (Faithful letterTree after.files e.1 ↔
            SavesLast letterTree (letterTree.writes table log) e.1) ∧
          ((∀ location ∈ letterTree.slots [e.1],
            ((letterTree.writes table log).map (·.1)).count location ≤ 1) →
              Faithful letterTree after.files e.1) := by
  obtain ⟨after, hrun⟩ := exists_run_letter
  exact ⟨after, hrun, run_fidelity hrun⟩

/-- A directory with a file and a link to it in the place of its backup. -/
def linkedTree : Files :=
  let name := Path.ofString
  ⟨⟨[([name "s"], .directory), ([name "s", name "A.hx"], .file (Utf8.encode "a")),
    ([name "s", name "A.hx.backup"], .link (name "A.hx"))]⟩, [], none⟩

theorem patchBelow_linkedTree {state : RunState} (hfiles : state.files = linkedTree) :
    patchBelow (.ofConfig letterConfig) [Files.letterRule] ⟨false⟩ Files.pathLimit
        (.root letterConfig.root) state =
      handle [Files.letterRule] ⟨false⟩ (.file (Path.ofString "s/A.hx")) state := by
  have hroot : (Scanner.ofConfig letterConfig).expand linkedTree (.root letterConfig.root) =
      ([], [.entry (Path.ofString "s/A.hx") .file,
        .entry (Path.ofString "s/A.hx.backup") .link]) := by cbv
  have hfile : (Scanner.ofConfig letterConfig).wants (Path.ofString "s/A.hx") = true := by cbv
  have hlink : (Scanner.ofConfig letterConfig).wants (Path.ofString "s/A.hx.backup") = false := by
    cbv
  have hdepth : Files.pathLimit = 4094 + 1 + 1 := rfl
  have hfound : (Scanner.ofConfig letterConfig).expand state.files
      (.entry (Path.ofString "s/A.hx") .file) = ([.file (Path.ofString "s/A.hx")], []) := by
    simp [Scanner.expand, Scanner.look, hfile]
  rw [hdepth, patchBelow_of_directory (hfiles ▸ hroot), forM_cons_apply,
    patchBelow_of_file hfound]
  cases handle [Files.letterRule] ⟨false⟩ (.file (Path.ofString "s/A.hx")) state with
  | error e middle => rfl
  | ok _ middle =>
    have hnothing : (Scanner.ofConfig letterConfig).expand middle.files
        (.entry (Path.ofString "s/A.hx.backup") .link) = ([], []) := by
      simp [Scanner.expand, Scanner.look, hlink]
    simp only
    rw [forM_cons_apply, patchBelow_of_directory hnothing]
    rfl

/-- The backup of a file may be a link to the file itself, and is lost then. -/
theorem not_faithful_linked :
    ∃ after, run letterConfig ⟨false⟩ (start linkedTree none) = .ok ⟨1, 0, 0⟩ after ∧
      after.output.written = bytesOf (banner letterConfig [Files.letterRule] ⟨false⟩ ++
        ["[FIXED] s/A.hx"] ++ footer ⟨1, 0, 0⟩ ⟨false⟩) ∧
      ¬Faithful linkedTree after.files (Path.ofString "s/A.hx") := by
  have hpatch : linkedTree.patch (Path.ofString "s/A.hx") [Files.letterRule] false =
      (.ok .fixed, (linkedTree.overwrite (Path.ofString "s/A.hx") "a" "b").2) := by
    rw [Files.patch_letter (by cbv)]
    exact Prod.ext (by cbv) rfl
  have hbefore : linkedTree.read (Path.ofString "s/A.hx") = .ok (Utf8.encode "a") := by cbv
  have hcopy : (linkedTree.overwrite (Path.ofString "s/A.hx") "a" "b").2.read
      (backupPath (Path.ofString "s/A.hx")) = .ok (Utf8.encode "b") := by cbv
  have hline : Patched.fixed.line (Path.ofString "s/A.hx") = "[FIXED] s/A.hx" := by cbv
  obtain ⟨after, hrun, hfiles, houtput⟩ := exists_run_of_single (by cbv)
    compile_letterConfig (by cbv) (fun _ => patchBelow_linkedTree) hpatch
  rw [hline] at houtput
  refine ⟨after, hrun, houtput, ?_⟩
  rintro ⟨old, new, hold, hbackup, -, -⟩
  rw [hbefore, Except.ok.injEq] at hold
  rw [hfiles, hcopy, Except.ok.injEq, ← hold] at hbackup
  revert hbackup
  decide

end Emend.Run

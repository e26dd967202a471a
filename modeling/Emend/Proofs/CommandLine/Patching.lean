import Emend.CommandLine.Program
import Emend.Proofs.CommandLine.Arguments
import Emend.Proofs.Patch.Retry
import Emend.Proofs.Run.Ending

/-!
# Patching from the command line

The program does what a run of the library does, with the configuration that is loaded
and what the command line puts in its place, in whatever order and spelling the command
line says it.
-/

namespace Emend.CommandLine

variable {files : Files} {values : Values} {words : List Bytes} {givens : List Given}
  {root config : Option Path} {extensions : List String} {dryRun : Bool} {e : Error}
  {loaded : LoadedConfig}

/-- A configuration with the root and the extensions that a command line gives. -/
def overridden (config : Config) (root : Option Path) (extensions : List String) : Config :=
  { config with
    root := root.getD config.root
    extensions := if extensions = [] then config.extensions else extensions }

def loadHere (files : Files) (named : Option Path) : Except Error LoadedConfig :=
  Config.load files named (pathOfLocation files.here)

/-- Where there is no file of configuration, the built-in one is loaded. -/
theorem loadHere_of_no_file
    (hfile : files.isFile ((pathOfLocation files.here).join Config.fileName) = false) :
    loadHere files none = .ok ⟨.builtIn, .builtIn⟩ := by
  simp [loadHere, Config.load, hfile]

theorem effectiveConfig_of_error (hload : loadHere files values.config = .error e) :
    effectiveConfig files values = .error e := by
  rw [loadHere] at hload
  rw [effectiveConfig, hload]
  rfl

theorem effectiveConfig_of_ok (hload : loadHere files values.config = .ok loaded) :
    effectiveConfig files values =
      ((overridden loaded.config values.root values.extensions).validate).map fun _ =>
        { loaded with config := overridden loaded.config values.root values.extensions } := by
  rw [loadHere] at hload
  rw [effectiveConfig, hload]
  simp only [bind, Except.bind, overridden]
  cases Config.validate _ <;> rfl

/-- Without a configuration to go by, nothing is done. -/
theorem patch_of_refused (heffective : effectiveConfig files values = .error e) :
    patch files values =
      ⟨1, [], "error: Failed to load configuration\n\nCaused by:" ++ listed (causes e) ++ "\n",
        files⟩ := by
  rw [patch, heffective]
  rfl

/-- What a run comes to, as the program shows it. -/
def shown (config : Config) : EStateM.Result Error RunState Summary → Ending
  | .ok _ after => ⟨0, after.output.written, textOfLines after.warnings, after.files⟩
  | .error e after =>
    ⟨1, after.output.written,
      textOfLines after.warnings ++ ("error: Patch run failed under " ++ config.root.display ++
        "\n\nCaused by:" ++ listed (causes e) ++ "\n"),
      after.files⟩

/-- With a configuration to go by, the program shows what a run with it comes to. -/
theorem patch_of_accepted (heffective : effectiveConfig files values = .ok loaded) :
    patch files values =
      shown loaded.config (Run.run loaded.config ⟨values.dryRun⟩ (Run.start files none)) := by
  rw [patch, heffective]
  simp only
  cases Run.run loaded.config ⟨values.dryRun⟩ (Run.start files none) with
  | ok summary after => rfl
  | error e after =>
    have hlead : "error: " ++ "Patch run failed under " = "error: Patch run failed under " := rfl
    simp only [shown, failureReport, ← hlead, String.append_assoc]

/-- The program refines the library.  It fails with the configuration that is loaded and
overridden, or else shows what a run with it comes to. -/
theorem program_patches (harranges : Arranges givens root config extensions dryRun)
    (hspells : SpellsAll givens words) (files : Files) :
    (∀ e, (loadHere files config = .error e ∨ ∃ loaded, loadHere files config = .ok loaded ∧
        (overridden loaded.config root extensions).validate = .error e) →
      program files words =
        ⟨1, [], "error: Failed to load configuration\n\nCaused by:" ++ listed (causes e) ++ "\n",
          files⟩) ∧
    ∀ loaded, loadHere files config = .ok loaded →
      (overridden loaded.config root extensions).validate = .ok () →
      program files words =
        shown (overridden loaded.config root extensions)
          (Run.run (overridden loaded.config root extensions) ⟨dryRun⟩
            (Run.start files none)) := by
  have hprogram : program files words =
      patch files ⟨config, extensions, root, false, false, dryRun⟩ := by
    rw [program, ofWords_of_spellsAll harranges hspells]
    rfl
  rw [hprogram]
  constructor
  · rintro e (hload | ⟨loaded, hload, hinvalid⟩)
    · exact patch_of_refused (effectiveConfig_of_error hload)
    · apply patch_of_refused
      rw [effectiveConfig_of_ok hload, hinvalid]
      rfl
  · intro loaded hload hvalid
    have heffective : effectiveConfig files ⟨config, extensions, root, false, false, dryRun⟩ =
        .ok { loaded with config := overridden loaded.config root extensions } := by
      rw [effectiveConfig_of_ok hload, hvalid]
      rfl
    exact patch_of_accepted heffective

def sampleWords : List Bytes :=
  [Utf8.encode "--ext=hx", Utf8.encode "src", Utf8.encode "--ext", Utf8.encode "as"]

def sampleGivens : List Given :=
  [.extension "hx", .root (Utf8.encode "src"), .extension "as"]

def sampleConfig : Config := overridden .builtIn (some (Utf8.encode "src")) ["hx", "as"]

/-- A directory with two files, one of which holds an old text and one a new text. -/
def sampleFiles (old new : Bytes) : Files :=
  let name := Path.ofString
  ⟨⟨[([name "src"], .directory), ([name "src", name "A.hx"], .file old),
    ([name "src", name "B.as"], .file new)]⟩, [], none⟩

def sampleFixed (old new : Bytes) : Files :=
  ((sampleFiles old new).store [Path.ofString "src", Path.ofString "A.hx.backup"] old).store
    [Path.ofString "src", Path.ofString "A.hx"] new

theorem wellFormed_sampleFiles (old new : Bytes) : (sampleFiles old new).tree.WellFormed where
  nodup := by
    change [[Path.ofString "src"], [Path.ofString "src", Path.ofString "A.hx"],
      [Path.ofString "src", Path.ofString "B.as"]].Nodup
    decide
  ne_nil := by simp [sampleFiles]
  proper := by
    simp only [sampleFiles, List.forall_mem_cons]
    decide

theorem isDirectory_sampleFiles (old new : Bytes) :
    (sampleFiles old new).isDirectory sampleConfig.root = true := by cbv

set_option maxRecDepth 4000 in
theorem scan_sampleFiles (old new : Bytes) :
    (Scanner.ofConfig sampleConfig).scan (sampleFiles old new) =
      [.file (Path.ofString "src/A.hx"), .file (Path.ofString "src/B.as")] := by cbv

theorem read_sampleFiles (old new : Bytes) :
    (sampleFiles old new).read (Path.ofString "src/A.hx") = .ok old := by cbv

theorem slot_sampleFiles (old new : Bytes) :
    (sampleFiles old new).slot? (Path.ofString "src/A.hx") =
      some [Path.ofString "src", Path.ofString "A.hx"] := by cbv

theorem slot_backup_sampleFiles (old new : Bytes) :
    (sampleFiles old new).slot? (backupPath (Path.ofString "src/A.hx")) =
      some [Path.ofString "src", Path.ofString "A.hx.backup"] := by cbv

theorem read_sampleFixed (old new : Bytes) :
    (sampleFixed old new).read (Path.ofString "src/A.hx") = .ok new ∧
      (sampleFixed old new).read (Path.ofString "src/A.hx.backup") = .ok old ∧
      (sampleFixed old new).read (Path.ofString "src/B.as") = .ok new :=
  ⟨by cbv, by cbv, by cbv⟩

def sampleLines : List String :=
  ["=== repatch ===", "Scanning 'src/' for 2 rule(s) on *.hx, *.as...\n", "[FIXED] src/A.hx",
    "[OK]    src/B.as", "\nDone! 1 file(s) fixed, 1 unchanged.",
    "Backup copies are saved as *.backup"]

theorem lines_sample :
    Run.banner sampleConfig RuleTable.builtIn ⟨false⟩ ++
        Run.reportLines [(Path.ofString "src/A.hx", .fixed), (Path.ofString "src/B.as", .unchanged)] ++
      Run.footer ⟨1, 1, 0⟩ ⟨false⟩ = sampleLines := by
  have hlength : RuleTable.builtIn.length = 2 := rfl
  rw [Run.banner, hlength]
  cbv

/-- The files are reported in their order, one as fixed and one as unchanged. -/
theorem run_sample {old new : String} (happly : RuleTable.builtIn.apply old = new)
    (hne : new ≠ old) (hagain : RuleTable.builtIn.apply new = new) :
    ∃ summary after,
      Run.run sampleConfig ⟨false⟩
          (Run.start (sampleFiles (Utf8.encode old) (Utf8.encode new)) none) =
        .ok summary after ∧
      after.files = sampleFixed (Utf8.encode old) (Utf8.encode new) ∧ after.warnings = [] ∧
      after.output.written = Run.bytesOf sampleLines := by
  have hfirst : (sampleFiles (Utf8.encode old) (Utf8.encode new)).patch (Path.ofString "src/A.hx")
      RuleTable.builtIn false =
        (.ok .fixed, sampleFixed (Utf8.encode old) (Utf8.encode new)) := by
    have hchanges : (sampleFiles (Utf8.encode old) (Utf8.encode new)).Changes
        (Path.ofString "src/A.hx") RuleTable.builtIn old :=
      ⟨⟨read_sampleFiles _ _, Utf8.decode_encode old⟩, by rwa [happly]⟩
    rw [hchanges.patch_eq, happly, Files.overwrite_of_unlimited rfl (slot_backup_sampleFiles _ _)
      (slot_sampleFiles _ _)]
    rfl
  have hholds : (sampleFixed (Utf8.encode old) (Utf8.encode new)).Holds
      (Path.ofString "src/B.as") new :=
    ⟨(read_sampleFixed _ _).2.2, Utf8.decode_encode new⟩
  have hprogress : Run.progressOf RuleTable.builtIn ⟨false⟩
      (sampleFiles (Utf8.encode old) (Utf8.encode new))
      [.file (Path.ofString "src/A.hx"), .file (Path.ofString "src/B.as")] =
        ⟨[(Path.ofString "src/A.hx", .fixed), (Path.ofString "src/B.as", .unchanged)], none,
          sampleFixed (Utf8.encode old) (Utf8.encode new)⟩ := by
    rw [Run.progressOf_ok hfirst, Run.progressOf_ok (hholds.patch_eq hagain)]
    rfl
  have hvalid : sampleConfig.validate = .ok () := rfl
  have hcompile : RuleTable.compile sampleConfig.rules = .ok RuleTable.builtIn :=
    RuleTable.compile_builtIn
  have hfree : (sampleFiles (Utf8.encode old) (Utf8.encode new)).tree.LinkFree :=
    Tree.linkFree_of_entries (by simp [sampleFiles])
  obtain ⟨after, hrun, hfiles, hwarnings, htext⟩ :=
    Run.exists_run_of_scan (wellFormed_sampleFiles _ _) hfree hvalid hcompile
      (isDirectory_sampleFiles _ _) (scan_sampleFiles _ _) hprogress
  refine ⟨_, after, hrun, hfiles, hwarnings, ?_⟩
  rw [htext, ← lines_sample]
  rfl

theorem loadHere_sampleFiles (old new : Bytes) :
    loadHere (sampleFiles old new) none = .ok ⟨.builtIn, .builtIn⟩ :=
  loadHere_of_no_file (by cbv)

theorem program_patches_sample :
    Arranges sampleGivens (some (Utf8.encode "src")) none ["hx", "as"] false ∧
      SpellsAll sampleGivens sampleWords ∧
      let old := Utf8.encode (RuleTable.statementAnd "a")
      let new := Utf8.encode (RuleTable.newStatementAnd "a")
      program (sampleFiles old new) sampleWords = ⟨0, Run.bytesOf sampleLines, "", sampleFixed old new⟩ ∧
        (sampleFixed old new).read (Path.ofString "src/A.hx") = .ok new ∧
        (sampleFixed old new).read (Path.ofString "src/A.hx.backup") = .ok old := by
  have harranges : Arranges sampleGivens (some (Utf8.encode "src")) none ["hx", "as"] false :=
    ⟨rfl, rfl, rfl, rfl⟩
  have hvalue {word : Bytes} (hfirst : word.head? ≠ some dash) : ¬isOption word := by
    rintro ⟨second, rest, rfl⟩
    exact hfirst rfl
  have hspells : SpellsAll sampleGivens sampleWords := by
    have hroot : Spells [.root (Utf8.encode "src")] [Utf8.encode "src"] :=
      .root (hvalue (by decide)) (by decide) (by unfold leadsOff; decide)
    have hlast : Spells [.extension "as"] [Utf8.encode "--ext", Utf8.encode "as"] :=
      .extension (hvalue (by decide))
    exact .cons (.extensionAttached "hx") (.cons hroot (.cons hlast .nil))
  have happly : RuleTable.builtIn.apply (RuleTable.statementAnd "a") =
      RuleTable.newStatementAnd "a" :=
    RuleTable.apply_statementAnd rfl (by decide) (by decide) (by decide)
  have hagain := RuleTable.apply_builtIn_again (RuleTable.statementAnd "a")
  rw [happly] at hagain
  obtain ⟨summary, after, hrun, hfiles, hwarnings, htext⟩ := run_sample happly (by decide) hagain
  have hprogram := (program_patches harranges hspells (sampleFiles _ _)).2 _
    (loadHere_sampleFiles (Utf8.encode (RuleTable.statementAnd "a"))
      (Utf8.encode (RuleTable.newStatementAnd "a"))) rfl
  rw [← sampleConfig, hrun, shown, hwarnings, htext, hfiles] at hprogram
  obtain ⟨hnew, hold, -⟩ := read_sampleFixed (Utf8.encode (RuleTable.statementAnd "a"))
    (Utf8.encode (RuleTable.newStatementAnd "a"))
  exact ⟨harranges, hspells, hprogram, hnew, hold⟩

end Emend.CommandLine

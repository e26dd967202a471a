import Emend.CommandLine.Program
import Emend.Proofs.CommandLine.Arguments
import Emend.Proofs.Run.Refusal

/-!
# Checking a configuration

Checking the configuration and patching read the same command line and load the same
configuration.  Patching goes on from there only if the check finds no fault; otherwise
both end with the same error, and neither has touched anything.
-/

namespace Emend.CommandLine

variable {files : Files} {values : Values} {words : List Bytes} {last : Level} {e : Error}
  {loaded : LoadedConfig} {path : Path} {text : String} {config : Config}

/-! ## Errors of configurations -/

theorem isOfConfig_of_validate (hvalid : config.validate = .error e) : e.isOfConfig = true := by
  obtain ⟨fault, -, rfl⟩ := Config.validate_eq_error_iff.mp hvalid
  rfl

theorem isOfConfig_of_ofText (htext : Config.ofText path text = .error e) :
    e.isOfConfig = true := by
  unfold Config.ofText at htext
  split at htext
  · cases htext
    rfl
  · split at htext
    · cases htext
      rfl
    · rcases error_of_bind htext with hvalid | ⟨_, _, hok⟩
      · exact isOfConfig_of_validate hvalid
      · cases hok

theorem isOfConfig_of_read (hread : Config.read files path = .error e) :
    e.isOfConfig = true := by
  unfold Config.read at hread
  split at hread
  · cases hread
    rfl
  · split at hread
    · cases hread
      rfl
    · exact isOfConfig_of_ofText hread

theorem isOfConfig_of_load {named : Option Path} {directory : Path}
    (hload : Config.load files named directory = .error e) : e.isOfConfig = true := by
  have hof {path : Path} {source : ConfigSource}
      (hread : (do return ⟨← Config.read files path, source⟩ : Except Error LoadedConfig) =
        .error e) : e.isOfConfig = true := by
    rcases error_of_bind hread with hread | ⟨_, _, hok⟩
    · exact isOfConfig_of_read hread
    · cases hok
  cases named with
  | some path => exact hof hload
  | none =>
    simp only [Config.load] at hload
    split_ifs at hload
    exact hof hload

/-- Loading a configuration ends with no other errors than those of configurations. -/
theorem isOfConfig_of_effectiveConfig (heffective : effectiveConfig files values = .error e) :
    e.isOfConfig = true := by
  rcases error_of_bind heffective with hload | ⟨loaded, -, hrest⟩
  · exact isOfConfig_of_load hload
  · rcases error_of_bind hrest with hvalid | ⟨_, _, hok⟩
    · exact isOfConfig_of_validate hvalid
    · cases hok

theorem validate_of_effectiveConfig (heffective : effectiveConfig files values = .ok loaded) :
    loaded.config.validate = .ok () := by
  obtain ⟨_, _, hrest⟩ := exists_of_bind_ok heffective
  obtain ⟨_, hvalid, hok⟩ := exists_of_bind_ok hrest
  cases hok
  exact hvalid

/-! ## The error of a check and of a run -/

def patchError? (files : Files) (values : Values) : Option Error :=
  match effectiveConfig files values with
  | .error e => some e
  | .ok loaded =>
    Run.failureOf (Run.run loaded.config ⟨values.dryRun⟩ (Run.start files none))

/-- Why the configuration in effect cannot be used, if it cannot.  Nothing but the file
of the configuration is looked at for this. -/
def configError? (files : Files) (values : Values) : Option Error :=
  match effectiveConfig files values with
  | .error e => some e
  | .ok loaded => loaded.config.refusal?

/-- An ending that tells of an error, or that there was none. -/
def Ending.Tells (ending : Ending) : Option Error → Prop
  | none => ending.code = 0
  | some e =>
    ending.code = 1 ∧ ∃ warnings context, ending.errors = warnings ++ failureReport context e

/-- Patching ends as its error tells, and well without one. -/
theorem patch_tells (files : Files) (values : Values) :
    (patch files values).Tells (patchError? files values) := by
  rw [patch, patchError?]
  cases effectiveConfig files values with
  | error e => exact ⟨rfl, "", _, (String.empty_append).symm⟩
  | ok loaded =>
    cases hrun : Run.run loaded.config ⟨values.dryRun⟩ (Run.start files none) with
    | ok summary after => simp only [hrun]; exact rfl
    | error e after => simp only [hrun]; exact ⟨rfl, _, _, rfl⟩

theorem isOfConfig_of_configError (herror : configError? files values = some e) :
    e.isOfConfig = true := by
  unfold configError? at herror
  split at herror
  · next heffective =>
    cases herror
    exact isOfConfig_of_effectiveConfig heffective
  · exact Config.isOfConfig_of_refusal herror

/-- A configuration that cannot be used ends a run before anything else can. -/
theorem patch_of_configError (herror : configError? files values = some e) :
    patchError? files values = some e ∧ (patch files values).output = [] ∧
      (patch files values).files = files := by
  rw [patchError?, patch]
  rw [configError?] at herror
  cases heffective : effectiveConfig files values with
  | error fault =>
    rw [heffective] at herror
    exact ⟨herror, rfl, rfl⟩
  | ok loaded =>
    rw [heffective] at herror
    simp only [Run.run_of_refused herror]
    exact ⟨rfl, rfl, rfl⟩

/-- What makes patching fail under an accepted configuration is no error of the configuration. -/
theorem not_ofConfig_of_patch (haccepted : configError? files values = none)
    (herror : patchError? files values = some e) : e.isOfConfig = false := by
  rw [configError?] at haccepted
  rw [patchError?] at herror
  cases heffective : effectiveConfig files values with
  | error fault =>
    rw [heffective] at haccepted
    cases haccepted
  | ok loaded =>
    rw [heffective] at haccepted herror
    exact Run.not_ofConfig_of_run haccepted herror

/-- Of the errors of a run, those of its configuration are what a check finds. -/
theorem configError_eq_some_iff :
    configError? files values = some e ↔
      patchError? files values = some e ∧ e.isOfConfig = true := by
  constructor
  · intro herror
    exact ⟨(patch_of_configError herror).1, isOfConfig_of_configError herror⟩
  · rintro ⟨hpatch, hof⟩
    cases herror : configError? files values with
    | none => simp [not_ofConfig_of_patch herror hpatch] at hof
    | some found => rw [← hpatch, (patch_of_configError herror).1]

theorem validateConfig_of_configError (herror : configError? files values = some e) :
    validateConfig files values =
      ⟨1, [], "Configuration error: " ++ e.message ++ "\n", files⟩ := by
  rw [validateConfig]
  rw [configError?] at herror
  cases heffective : effectiveConfig files values with
  | error fault =>
    rw [heffective] at herror
    cases herror
    rfl
  | ok loaded =>
    rw [heffective] at herror
    rcases Config.refusal_eq_some_iff.mp herror with hvalid | ⟨-, hcompile⟩
    · rw [validate_of_effectiveConfig heffective] at hvalid
      cases hvalid
    · simp only [bind, Except.bind, hcompile]
      rfl

theorem validateConfig_of_none (haccepted : configError? files values = none) :
    (validateConfig files values).code = 0 ∧ (validateConfig files values).files = files := by
  rw [validateConfig]
  rw [configError?] at haccepted
  cases heffective : effectiveConfig files values with
  | error fault =>
    rw [heffective] at haccepted
    cases haccepted
  | ok loaded =>
    rw [heffective] at haccepted
    obtain ⟨-, table, hcompile⟩ := Config.refusal_eq_none_iff.mp haccepted
    simp only [bind, Except.bind, hcompile]
    exact ⟨rfl, rfl⟩

/-- A check fails for a pattern just when this is the first one that does not compile. -/
theorem configError_pattern_iff (heffective : effectiveConfig files values = .ok loaded)
    {pattern : String} {cause : Pattern.PatternError} :
    configError? files values = some (.patternInvalid pattern cause) ↔
      FirstRefused loaded.config.rules pattern cause := by
  rw [configError?, heffective]
  simp only
  rw [Config.refusal_eq_some_iff, validate_of_effectiveConfig heffective,
    RuleTable.compile_eq_error_iff]
  simp

/-! ## The command line of a check -/

theorem readWords_validate :
    readWords .config .start false [Utf8.encode "validate"] = .ok ⟨.validateConfig, .none⟩ :=
  readWords_child Level.stands_start (by simp [Values.none]) rfl
    (readWords_nil rfl Level.stands_start (by simp [Values.none]) false)

/-- What has been given before the words of the check counts for it. -/
theorem readWords_config_validate (hlast : last.Stands values)
    (hforce : values.force = true → values.init = true) :
    readWords .patch last false [Utf8.encode "config", Utf8.encode "validate"] =
      .ok ⟨.validateConfig, values⟩ := by
  have hunder : Values.none.under values = values := by
    simp [Values.under, Values.none]
  rw [readWords_child hlast hforce rfl readWords_validate, hunder]

/-! ## Main result -/

/-- What the ending of a check says of the ending of a run with the same values. -/
structure Decides (files : Files) (values : Values) (checked patched : Ending) : Prop where
  patched_tells : patched.Tells (patchError? files values)
  files_eq : checked.files = files
  code_iff : checked.code = 0 ↔
    ∀ e, patchError? files values = some e → e.isOfConfig = false
  refused : ∀ e, patchError? files values = some e → e.isOfConfig = true →
    checked = ⟨1, [], "Configuration error: " ++ e.message ++ "\n", files⟩ ∧
      patched.output = [] ∧ patched.files = files
  comes_first : ∀ e, configError? files values = some e → patchError? files values = some e
  first_pattern : ∀ loaded, effectiveConfig files values = .ok loaded → ∀ pattern cause,
    patchError? files values = some (.patternInvalid pattern cause) ↔
      FirstRefused loaded.config.rules pattern cause

theorem validateConfig_decides (files : Files) (values : Values) :
    Decides files values (validateConfig files values) (patch files values) := by
  have hpattern (pattern cause) :
      configError? files values = some (.patternInvalid pattern cause) ↔
        patchError? files values = some (.patternInvalid pattern cause) := by
    rw [configError_eq_some_iff]
    exact and_iff_left rfl
  refine ⟨patch_tells files values, ?_, ?_, fun e hpatch hof => ?_,
    fun e herror => (patch_of_configError herror).1, fun loaded heffective pattern cause => ?_⟩
  · cases herror : configError? files values with
    | none => exact (validateConfig_of_none herror).2
    | some e => rw [validateConfig_of_configError herror]
  · cases herror : configError? files values with
    | none =>
      exact iff_of_true (validateConfig_of_none herror).1 fun e => not_ofConfig_of_patch herror
    | some e =>
      obtain ⟨hpatch, hof⟩ := configError_eq_some_iff.mp herror
      rw [validateConfig_of_configError herror]
      apply iff_of_false (by simp)
      intro hnone
      simp [hnone e hpatch] at hof
  · have herror := configError_eq_some_iff.mpr ⟨hpatch, hof⟩
    exact ⟨validateConfig_of_configError herror, (patch_of_configError herror).2⟩
  · rw [← hpattern, configError_pattern_iff heffective]

/-- Checking the configuration decides whether patching with the same values would get
past it. -/
theorem program_config_validate (hread : Invocation.ofWords words = .ok ⟨.patch, values⟩)
    (hinit : values.init = false) (hdashes : [dash, dash] ∉ words) (files : Files) :
    Decides files values
      (program files (words ++ [Utf8.encode "config", Utf8.encode "validate"]))
      (program files words) := by
  obtain ⟨last, hlast, hforce, hrest⟩ := exists_last hread hdashes
  have hcheck : Invocation.ofWords (words ++ [Utf8.encode "config", Utf8.encode "validate"]) =
      .ok ⟨.validateConfig, values⟩ := by
    rw [Invocation.ofWords, hrest, readWords_config_validate hlast hforce]
  simp only [program, hread, hcheck, carryOut, hinit]
  exact validateConfig_decides files values

theorem program_config_validate_dot :
    Invocation.ofWords [Utf8.encode "--ext=."] =
        .ok ⟨.patch, ⟨none, ["."], none, false, false, false⟩⟩ ∧
      [dash, dash] ∉ [Utf8.encode "--ext=."] ∧
      Decides ⟨Tree.empty, [], none⟩ ⟨none, ["."], none, false, false, false⟩
        (program ⟨Tree.empty, [], none⟩
          ([Utf8.encode "--ext=."] ++ [Utf8.encode "config", Utf8.encode "validate"]))
        (program ⟨Tree.empty, [], none⟩ [Utf8.encode "--ext=."]) := by
  have hread : Invocation.ofWords [Utf8.encode "--ext=."] =
      .ok ⟨.patch, ⟨none, ["."], none, false, false, false⟩⟩ :=
    ofWords_of_spellsAll ⟨rfl, rfl, rfl, rfl⟩ (.cons (.extensionAttached ".") .nil)
  have hdashes : [dash, dash] ∉ [Utf8.encode "--ext=."] := by decide
  exact ⟨hread, hdashes, program_config_validate hread rfl hdashes _⟩

end Emend.CommandLine

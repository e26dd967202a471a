import Emend.Proofs.Config.Faults
import Emend.Proofs.Run.Ending

/-!
# Refused configurations

A configuration is refused for a fault that it has, or else for the first of its rules
whose pattern cannot be compiled.  A run that is refused has done nothing, wherever its
root leads, and a run that is not refused ends with other errors only.
-/

namespace Emend

variable {rules : List Rule} {e : Error}

def Error.isOfConfig : Error → Bool
  | configUnreadable .. | configUnparsable _ | configInvalid _ | patternInvalid .. => true
  | rootNotDirectory _ | fileUnreadable .. | fileNotText .. | backupFailed .. |
    overwriteFailed .. | outputFailed => false

/-- A pattern is refused for a cause, and the patterns of all rules before it are not. -/
def FirstRefused (rules : List Rule) (pattern : String) (cause : Pattern.PatternError) : Prop :=
  ∃ before rule after, rules = before ++ rule :: after ∧ rule.pattern = pattern ∧
    CompiledRule.ofRule rule = .error cause ∧
    ∀ earlier ∈ before, ∃ compiled, CompiledRule.ofRule earlier = .ok compiled

theorem firstRefused_cons {rule : Rule} {pattern : String} {cause : Pattern.PatternError} :
    FirstRefused (rule :: rules) pattern cause ↔
      rule.pattern = pattern ∧ CompiledRule.ofRule rule = .error cause ∨
        (∃ compiled, CompiledRule.ofRule rule = .ok compiled) ∧
          FirstRefused rules pattern cause := by
  constructor
  · rintro ⟨before, refused, after, hsplit, hpattern, hrefused, hearlier⟩
    cases before with
    | nil =>
      cases hsplit
      exact .inl ⟨hpattern, hrefused⟩
    | cons first before =>
      cases hsplit
      rw [List.forall_mem_cons] at hearlier
      exact .inr ⟨hearlier.1, before, refused, after, rfl, hpattern, hrefused, hearlier.2⟩
  · rintro (⟨hpattern, hrefused⟩ | ⟨hcompiled, before, refused, after, rfl, hpattern, hrefused,
      hearlier⟩)
    · exact ⟨[], rule, rules, rfl, hpattern, hrefused, by simp⟩
    · exact ⟨rule :: before, refused, after, rfl, hpattern, hrefused,
        List.forall_mem_cons.mpr ⟨hcompiled, hearlier⟩⟩

/-- Compiling fails for the first pattern that is refused. -/
theorem RuleTable.compile_eq_error_iff :
    compile rules = .error e ↔
      ∃ pattern cause, e = .patternInvalid pattern cause ∧ FirstRefused rules pattern cause := by
  induction rules with
  | nil =>
    constructor
    · intro hcompile
      cases hcompile
    · rintro ⟨pattern, cause, -, before, rule, after, hsplit, -⟩
      simp at hsplit
  | cons rule rules ih =>
    cases hrule : CompiledRule.ofRule rule with
    | error cause =>
      have hcompile : compile (rule :: rules) = .error (.patternInvalid rule.pattern cause) := by
        rw [compile, List.mapM_cons, hrule]
        rfl
      simp [hcompile, firstRefused_cons, hrule, eq_comm]
    | ok compiled =>
      have hcompile : compile (rule :: rules) = (compile rules).map (compiled :: ·) := by
        rw [compile, List.mapM_cons, hrule]
        rfl
      have hgoes (pattern cause) : FirstRefused (rule :: rules) pattern cause ↔
          FirstRefused rules pattern cause := by
        simp [firstRefused_cons, hrule]
      rw [hcompile]
      simp only [hgoes, ← ih]
      cases compile rules <;> simp [Except.map]

namespace Config

variable {config : Config}

def refusal? (config : Config) : Option Error :=
  match config.validate with
  | .error e => some e
  | .ok () =>
    match RuleTable.compile config.rules with
    | .error e => some e
    | .ok _ => none

/-- A configuration is refused for a fault, or else for a pattern. -/
theorem refusal_eq_some_iff :
    config.refusal? = some e ↔ config.validate = .error e ∨
      config.validate = .ok () ∧ RuleTable.compile config.rules = .error e := by
  rw [refusal?]
  cases config.validate with
  | error fault => simp
  | ok => cases RuleTable.compile config.rules <;> simp

theorem refusal_eq_none_iff :
    config.refusal? = none ↔
      config.validate = .ok () ∧ ∃ table, RuleTable.compile config.rules = .ok table := by
  rw [refusal?]
  cases config.validate with
  | error fault => simp
  | ok => cases RuleTable.compile config.rules <;> simp

theorem isOfConfig_of_refusal (hrefused : config.refusal? = some e) : e.isOfConfig = true := by
  rcases refusal_eq_some_iff.mp hrefused with hvalid | ⟨-, hcompile⟩
  · obtain ⟨fault, -, rfl⟩ := validate_eq_error_iff.mp hvalid
    rfl
  · obtain ⟨pattern, cause, rfl, -⟩ := RuleTable.compile_eq_error_iff.mp hcompile
    rfl

end Config

/-- Patching a file never fails with an error of the configuration. -/
theorem Files.patch_error_not_ofConfig {files after : Files} {path : Path} {table : RuleTable}
    {dryRun : Bool} (hpatch : files.patch path table dryRun = (.error e, after)) :
    e.isOfConfig = false := by
  have hpatches := files.patch_patches path table dryRun
  rw [hpatch] at hpatches
  cases hpatches with
  | unreadable | notText | backupRefused | backupCut | overwriteCut => rfl

namespace Run

variable {config : Config} {options : Options} {files : Files} {state : RunState}

/-- A run that is refused ends at once. -/
theorem run_of_refused (hrefused : config.refusal? = some e) :
    run config options state = .error e state := by
  rcases Config.refusal_eq_some_iff.mp hrefused with hvalid | ⟨hvalid, hcompile⟩
  · exact run_of_invalid hvalid
  · exact run_of_uncompiled hvalid hcompile

/-- A run that is not refused ends with no error of its configuration. -/
theorem not_ofConfig_of_run (haccepted : config.refusal? = none)
    (hfailure : failureOf (run config options (start files none)) = some e) :
    e.isOfConfig = false := by
  obtain ⟨hvalid, table, hcompile⟩ := Config.refusal_eq_none_iff.mp haccepted
  cases hroot : files.isDirectory config.root with
  | false =>
    have hrun : run config options (start files none) = _ :=
      run_of_no_directory hvalid hcompile hroot
    rw [hrun] at hfailure
    cases hfailure
    rfl
  | true =>
    -- Past its configuration and its root, a run can only fail at a file.
    rw [run_eq_announce hvalid hcompile hroot, failureOf_announce] at hfailure
    obtain ⟨first, path, second, -, -, -, hpatch⟩ := Files.exists_failing hfailure
    exact Files.patch_error_not_ofConfig hpatch

end Run

end Emend

import Emend.Proofs.Run.Cut

/-!
# How a run ends

A run ends well, or with the failure of a file or of its output.  Under a limit of the
output it either ends as it would without, or is cut off.  The files that it leaves are
in every case those that patching the first files of its walk leaves.
-/

namespace Emend.Run

variable {config : Config} {table : RuleTable} {options : Options} {files : Files}
  {entries : List Scanned} {summary : Summary} {after : RunState} {limit : Option Nat}

def failureOf {α : Type} : EStateM.Result Error RunState α → Option Error
  | .ok _ _ => none
  | .error e _ => some e

/-- A run fails as patching its files does. -/
theorem failureOf_announce (config : Config) (table : RuleTable) (options : Options)
    (files : Files) (entries : List Scanned) :
    failureOf (announce config table options entries (start files none)) =
      (progressOf table options files entries).failure := by
  rcases done_or_failing table options files entries with
    hdone | ⟨first, path, second, e, last, hsplit, hdone, hpatch, hall⟩
  · rw [announce_of_done config hdone, hdone]
    rfl
  · rw [hall, hsplit, announce_of_failing config hdone hpatch]
    rfl

theorem exists_announce_of_done (config : Config)
    (hdone : (progressOf table options files entries).failure = none) :
    ∃ after, announce config table options entries (start files none) =
        .ok (tally ⟨0, 0, 0⟩ (progressOf table options files entries).done (skipCount entries))
          after ∧
      after.files = (progressOf table options files entries).files ∧
      after.output.written = bytesOf (banner config table options ++
        reportLines (progressOf table options files entries).done ++
        footer (tally ⟨0, 0, 0⟩ (progressOf table options files entries).done
          (skipCount entries)) options) := by
  obtain ⟨htext, hfiles⟩ := announce_account config table options files entries
  rw [ending, hdone] at htext
  have hok := announce_of_done config hdone
  rw [hok] at htext hfiles
  exact ⟨_, hok, hfiles, htext⟩

/-- In a tree without links, a run ends well if all that a scan finds can be patched. -/
theorem exists_run_of_scan {done : List (Path × Patched)} {last : Files}
    (hwell : files.tree.WellFormed) (hfree : files.tree.LinkFree)
    (hvalid : config.validate = .ok ()) (hcompile : RuleTable.compile config.rules = .ok table)
    (hroot : files.isDirectory config.root = true)
    (hscan : (Scanner.ofConfig config).scan files = entries)
    (hprogress : progressOf table options files entries = ⟨done, none, last⟩) :
    ∃ after, run config options (start files none) =
        .ok (tally ⟨0, 0, 0⟩ done (skipCount entries)) after ∧
      after.files = last ∧ after.warnings = entries.filterMap Scanned.warning? ∧
      after.output.written = bytesOf (banner config table options ++ reportLines done ++
        footer (tally ⟨0, 0, 0⟩ done (skipCount entries)) options) := by
  have hdone : (progressOf table options files entries).failure = none := by rw [hprogress]
  obtain ⟨after, hok, hfiles, htext⟩ := exists_announce_of_done config hdone
  have hwarnings : after.warnings = entries.filterMap Scanned.warning? := by
    have hsame := announce_of_done config hdone
    rw [hok] at hsame
    cases hsame
    rfl
  rw [hprogress] at hok hfiles htext
  refine ⟨after, ?_, hfiles, hwarnings, htext⟩
  rw [run_eq_announce_scan hwell hfree hvalid hcompile hroot, hscan, hok]

/-- A run that ends well under a limit ends in the same way without it. -/
theorem announce_ok
    (hok : announce config table options entries (start files limit) = .ok summary after) :
    ∃ whole, announce config table options entries (start files none) = .ok summary whole ∧
      after.files = whole.files ∧ after.output.written = whole.output.written := by
  cases limit with
  | none => exact ⟨after, hok, rfl, rfl⟩
  | some n =>
    by_cases hcut : n < (textOf (announce config table options entries (start files none))).length
    · obtain ⟨last, hlast, -⟩ := announce_cutOff hcut
      rw [hok] at hlast
      cases hlast
    · rw [announce_fits (Nat.not_lt.mp hcut)] at hok
      cases hwhole : announce config table options entries (start files none) with
      | error e whole =>
        rw [hwhole] at hok
        cases hok
      | ok summary whole =>
        rw [hwhole] at hok
        cases hok
        exact ⟨whole, rfl, rfl, rfl⟩

theorem files_limitedResult {α : Type} (limit : Option Nat)
    (result : EStateM.Result Error RunState α) :
    (stateOf (limitedResult limit result)).files = (stateOf result).files := by
  cases result <;> rfl

/-- The results differ in the limits of their outputs at most. -/
structure EndsLike {α : Type} (result other : EStateM.Result Error RunState α) : Prop where
  failure : failureOf result = failureOf other
  text : textOf result = textOf other
  files : (stateOf result).files = (stateOf other).files

theorem endsLike_limitedResult {α : Type} (limit : Option Nat)
    (result : EStateM.Result Error RunState α) : EndsLike (limitedResult limit result) result := by
  cases result <;> exact ⟨rfl, rfl, rfl⟩

/-- Under a limit the reports of a run end as they would without, or they are cut off. -/
theorem announce_endsLike_or_cut (config : Config) (table : RuleTable) (options : Options)
    (entries : List Scanned) (files : Files) (limit : Option Nat) :
    EndsLike (announce config table options entries (start files limit))
        (announce config table options entries (start files none)) ∨
      ∃ n, limit = some n ∧
        n < (textOf (announce config table options entries (start files none))).length := by
  cases limit with
  | none => exact .inl ⟨rfl, rfl, rfl⟩
  | some n =>
    by_cases hcut : n < (textOf (announce config table options entries (start files none))).length
    · exact .inr ⟨n, rfl, hcut⟩
    · left
      rw [announce_fits (Nat.not_lt.mp hcut)]
      exact endsLike_limitedResult (some n) _

/-- Whatever the limit, a run leaves what patching the first of its files comes to. -/
theorem exists_patched (config : Config) (table : RuleTable) (options : Options)
    (entries : List Scanned) (files : Files) (limit : Option Nat) :
    ∃ part, part <+: filePaths entries ∧
      (stateOf (announce config table options entries (start files limit))).files =
        (files.patchAll table options.dryRun part).files := by
  rcases announce_endsLike_or_cut config table options entries files limit with
    hends | ⟨n, rfl, hcut⟩
  · exact ⟨_, List.prefix_rfl, hends.files.trans (announce_account ..).2⟩
  · obtain ⟨after, hafter, -, hleft⟩ := announce_cutOff hcut
    have hfirst := (files.patchAll_done table options.dryRun (filePaths entries)).1
    rw [hafter]
    exact ⟨_, (startedBy_first _ _ _).trans hfirst, hleft⟩

end Emend.Run

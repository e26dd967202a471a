import Emend.Proofs.Patch.Progress
import Emend.Proofs.Run.Steps

/-!
# Dealing with a list of reports

A list of reports patches the files that it names, in order, and stops at the first
that cannot be patched.  What has been printed, warned of and counted by then keeps
step with the files.  Places that were skipped leave no trace but a warning and a
count.
-/

namespace Emend

def Scanned.warning? : Scanned → Option String
  | file _ => none
  | skipped path reason => some (Run.skippedLine path reason)

def filePaths (entries : List Scanned) : List Path := entries.filterMap Scanned.file?

def skipCount (entries : List Scanned) : Nat := (entries.filterMap Scanned.skipped?).length

namespace Run

variable {state after : RunState} {table : RuleTable} {options : Options} {path : Path}
  {entries others first second : List Scanned} {e : Error} {files last : Files}
  {outcome : Patched}

def reportLines (done : List (Path × Patched)) : List String := done.map fun e => e.2.line e.1

/-- The counts after some outcomes more and some places skipped. -/
def tally (summary : Summary) (done : List (Path × Patched)) (skipped : Nat) : Summary :=
  ⟨summary.fixed + done.countP (·.2 = .fixed), summary.unchanged + done.countP (·.2 = .unchanged),
    summary.skipped + skipped⟩

/-- How far the files of some reports can be patched. -/
def progressOf (table : RuleTable) (options : Options) (files : Files)
    (entries : List Scanned) : Files.Progress :=
  files.patchAll table options.dryRun (filePaths entries)

/-- A state after some reports, when patching has come so far. -/
def advanced (state : RunState) (entries : List Scanned) (progress : Files.Progress) :
    RunState where
  files := progress.files
  output := (printed state (reportLines progress.done)).output
  warnings := state.warnings ++ entries.filterMap Scanned.warning?
  summary := tally state.summary progress.done (skipCount entries)

def skipping (state : RunState) (place : Option Path) (reason : String) : RunState :=
  { state with
    summary := { state.summary with skipped := state.summary.skipped + 1 }
    warnings := state.warnings ++ [skippedLine place reason] }

theorem reportLines_eq (done : List (Path × Patched)) : reportLines done = done.map fun e =>
    (if e.2 = .fixed then "[FIXED] " else "[OK]    ") ++ e.1.display :=
  List.map_congr_left fun e _ => e.2.line_eq e.1

/-- Files that stay are reported like this, whatever happened to them before. -/
theorem reportLines_unchanged (done : List (Path × Patched)) :
    reportLines ((done.map Prod.fst).map fun path => (path, .unchanged)) =
      done.map fun e => "[OK]    " ++ e.1.display := by
  rw [reportLines, List.map_map, List.map_map]
  exact List.map_congr_left fun e _ => Patched.unchanged.line_eq e.1

@[simp]
theorem filePaths_file (path : Path) (entries : List Scanned) :
    filePaths (.file path :: entries) = path :: filePaths entries := rfl

@[simp]
theorem filePaths_append (first second : List Scanned) :
    filePaths (first ++ second) = filePaths first ++ filePaths second :=
  List.filterMap_append

theorem progressOf_error
    (hpatch : files.patch path table options.dryRun = (.error e, last)) :
    progressOf table options files (.file path :: entries) = ⟨[], some e, last⟩ :=
  Files.patchAll_cons_error hpatch

theorem progressOf_ok (hpatch : files.patch path table options.dryRun = (.ok outcome, last)) :
    progressOf table options files (.file path :: entries) =
      ⟨(path, outcome) :: (progressOf table options last entries).done,
        (progressOf table options last entries).failure,
        (progressOf table options last entries).files⟩ :=
  Files.patchAll_cons_ok hpatch

/-- Every outcome more is counted once, as fixed or as unchanged. -/
theorem tally_length (summary : Summary) (done : List (Path × Patched)) (skipped : Nat) :
    (tally summary done skipped).fixed + (tally summary done skipped).unchanged =
      summary.fixed + summary.unchanged + done.length := by
  have hsplit : done.length = done.countP (fun e => e.2 = .fixed) +
      done.countP (fun e => ¬(decide (e.2 = .fixed)) = true) :=
    List.length_eq_countP_add_countP _
  have hother : done.countP (fun e => e.2 = .unchanged) =
      done.countP (fun e => ¬(decide (e.2 = .fixed)) = true) := by
    apply List.countP_congr
    rintro ⟨path, outcome⟩ -
    cases outcome <;> simp
  simp only [tally]
  omega

/-! ## One report -/

theorem handle_of_error
    (hpatch : state.files.patch path table options.dryRun = (.error e, last)) :
    handle table options (.file path) state = .error e { state with files := last } := by
  have hfile : patchFile table options path state = .error e { state with files := last } := by
    rw [patchFile, hpatch]
  change (patchFile table options path >>= fun outcome => print (outcome.line path)) state = _
  rw [bind_apply, hfile]

theorem forM_handle_error (state : RunState)
    (hpatch : state.files.patch path table options.dryRun = (.error e, last)) :
    (Scanned.file path :: entries).forM (handle table options) state =
      .error e { state with files := last } := by
  rw [forM_cons_apply, handle_of_error hpatch]

theorem forM_handle_print (state : RunState)
    (hpatch : state.files.patch path table options.dryRun = (.ok outcome, last)) :
    (Scanned.file path :: entries).forM (handle table options) state =
      (print (outcome.line path) >>= fun _ => entries.forM (handle table options))
        (patching state last outcome) := by
  rw [forM_cons_apply, handle_eq_print hpatch, bind_apply]
  cases print (outcome.line path) (patching state last outcome) <;> rfl

theorem forM_handle_unlimited (hlimit : state.output.limit = none)
    (hpatch : state.files.patch path table options.dryRun = (.ok outcome, last)) :
    (Scanned.file path :: entries).forM (handle table options) state =
      entries.forM (handle table options)
        (printed (patching state last outcome) [outcome.line path]) := by
  have hnone : (patching state last outcome).output.limit = none := hlimit
  rw [forM_handle_print _ hpatch, bind_apply, print_unlimited hnone]

/-! ## A list of reports -/

theorem advanced_nil : advanced state [] ⟨[], none, state.files⟩ = state := by
  simp [advanced, printed, reportLines, bytesOf, tally, skipCount]

theorem advanced_skipped (place : Option Path) (reason : String) (progress : Files.Progress) :
    advanced (skipping state place reason) entries progress =
      advanced state (.skipped place reason :: entries) progress := by
  simp [advanced, skipping, tally, printed, skipCount, Scanned.warning?, Scanned.skipped?]
  omega

theorem advanced_file (later : Files.Progress) :
    advanced (printed (patching state last outcome) [outcome.line path]) entries later =
      advanced state (.file path :: entries)
        ⟨(path, outcome) :: later.done, later.failure, later.files⟩ := by
  have htally : tally (Summary.count state.summary outcome) later.done (skipCount entries) =
      tally state.summary ((path, outcome) :: later.done) (skipCount entries) := by
    cases outcome <;> simp [tally, Summary.count] <;> omega
  refine (RunState.mk.injEq ..).mpr ⟨rfl, ?_, rfl, htally⟩
  rw [printed_printed]
  rfl

/-- A list whose files can all be patched is dealt with to its end. -/
theorem forM_handle_of_done (hlimit : state.output.limit = none)
    (hdone : (progressOf table options state.files entries).failure = none) :
    entries.forM (handle table options) state =
      .ok () (advanced state entries (progressOf table options state.files entries)) := by
  induction entries generalizing state with
  | nil => exact congrArg (EStateM.Result.ok ()) advanced_nil.symm
  | cons entry entries ih =>
    cases entry with
    | skipped place reason =>
      have hrest := @ih (skipping state place reason) hlimit hdone
      rw [advanced_skipped] at hrest
      exact hrest
    | file path =>
      rcases hpatch : state.files.patch path table options.dryRun with ⟨e | outcome, last⟩
      · rw [progressOf_error hpatch] at hdone
        cases hdone
      · rw [progressOf_ok hpatch] at hdone ⊢
        have hrest := @ih (printed (patching state last outcome) [outcome.line path]) hlimit hdone
        rw [advanced_file] at hrest
        rw [forM_handle_unlimited hlimit hpatch]
        exact hrest

/-- The first file that cannot be patched ends the list, and what follows does not
matter. -/
theorem forM_handle_of_failing (hlimit : state.output.limit = none)
    (hdone : (progressOf table options state.files first).failure = none)
    (hpatch : (progressOf table options state.files first).files.patch path table options.dryRun =
      (.error e, last)) (second : List Scanned) :
    (first ++ .file path :: second).forM (handle table options) state =
      .error e (advanced state first
        { progressOf table options state.files first with files := last }) := by
  rw [forM_append_apply, forM_handle_of_done hlimit hdone]
  simp only
  rw [forM_cons_apply, handle_of_error hpatch]
  rfl

/-- Either every file of a list can be patched, or the list splits at the first that
cannot. -/
theorem done_or_failing (table : RuleTable) (options : Options) (files : Files)
    (entries : List Scanned) :
    (progressOf table options files entries).failure = none ∨
      ∃ first path second e last, entries = first ++ .file path :: second ∧
        (progressOf table options files first).failure = none ∧
        (progressOf table options files first).files.patch path table options.dryRun =
          (.error e, last) ∧
        progressOf table options files entries =
          ⟨(progressOf table options files first).done, some e, last⟩ := by
  induction entries generalizing files with
  | nil => exact .inl rfl
  | cons entry entries ih =>
    cases entry with
    | skipped place reason =>
      refine (ih files).imp id ?_
      rintro ⟨first, path, second, e, last, rfl, hdone, hpatch, hall⟩
      exact ⟨.skipped place reason :: first, path, second, e, last, rfl, hdone, hpatch, hall⟩
    | file path =>
      rcases hpatch : files.patch path table options.dryRun with ⟨e | outcome, middle⟩
      · exact .inr ⟨[], path, entries, e, middle, rfl, rfl, hpatch, progressOf_error hpatch⟩
      · rw [progressOf_ok hpatch]
        refine (ih middle).imp id ?_
        rintro ⟨first, later, second, e, last, rfl, hdone, hlater, hall⟩
        refine ⟨.file path :: first, later, second, e, last, rfl, ?_, ?_, ?_⟩
        · rwa [progressOf_ok hpatch]
        · rwa [progressOf_ok hpatch]
        · rw [hall, progressOf_ok hpatch]

/-! ## Whole lists -/

/-- If all files can be patched, all are reported and counted. -/
theorem patchEntries_of_done (state : RunState) (hlimit : state.output.limit = none)
    (hdone : (progressOf table options state.files entries).failure = none) :
    patchEntries table options entries state =
      let done := advanced state entries (progressOf table options state.files entries)
      .ok done.summary (printed done (footer done.summary options)) := by
  rw [patchEntries, bind_apply, forM_handle_of_done hlimit hdone]
  exact finish_unlimited hlimit

/-- A file that cannot be patched ends the run: nothing behind it is dealt with. -/
theorem patchEntries_of_failing (state : RunState) (hlimit : state.output.limit = none)
    (hdone : (progressOf table options state.files first).failure = none)
    (hpatch : (progressOf table options state.files first).files.patch path table options.dryRun =
      (.error e, last)) (second : List Scanned) :
    patchEntries table options (first ++ .file path :: second) state =
      .error e (advanced state first
        { progressOf table options state.files first with files := last }) := by
  rw [patchEntries, bind_apply, forM_handle_of_failing hlimit hdone hpatch]

/-- Two lists of reports have had the same outcome, but for the places that they skipped:
the results differ in the count of these, and the outputs in the footer that tells it. -/
def SameReports (options : Options) :
    EStateM.Result Error RunState Summary → EStateM.Result Error RunState Summary → Prop
  | .ok summary after, .ok other left =>
    left.files = after.files ∧ other = { summary with skipped := other.skipped } ∧
      ∃ lines, after.output.written = bytesOf (lines ++ footer summary options) ∧
        left.output.written = bytesOf (lines ++ footer other options)
  | .error e after, .error e' left =>
    e' = e ∧ left.files = after.files ∧ left.output = after.output
  | _, _ => False

/-- What dealing with a list of reports comes to. -/
structure FailStop (table : RuleTable) (options : Options) (files : Files)
    (entries : List Scanned) : Prop where
  /-- If every file can be patched in its turn, all are reported and counted. -/
  complete : (progressOf table options files entries).failure = none →
    ∃ done summary after,
      patchEntries table options entries (start files none) = .ok summary after ∧
      done = (progressOf table options files entries).done ∧
      done.map Prod.fst = filePaths entries ∧
      after.files = (progressOf table options files entries).files ∧
      summary = tally ⟨0, 0, 0⟩ done (skipCount entries) ∧
      summary.fixed + summary.unchanged = (filePaths entries).length ∧
      after.output.written = bytesOf (reportLines done ++ footer summary options) ∧
      after.warnings = entries.filterMap Scanned.warning?
  /-- The first file that cannot be patched ends the list with its error.  Everything
  stands as the reports before it and the failed patch have left it. -/
  stopped : ∀ first path e last,
    (progressOf table options files first).failure = none →
    (progressOf table options files first).files.patch path table options.dryRun =
      (.error e, last) →
    ∃ after, after.files = last ∧
      after.output.written = bytesOf (reportLines (progressOf table options files first).done) ∧
      (progressOf table options files first).done.map Prod.fst = filePaths first ∧
      after.warnings = first.filterMap Scanned.warning? ∧
      ∀ second, patchEntries table options (first ++ .file path :: second) (start files none) =
        .error e after
  /-- One of the two is the case. -/
  total : (progressOf table options files entries).failure = none ∨
    ∃ first path second e last, entries = first ++ .file path :: second ∧
      (progressOf table options files first).failure = none ∧
      (progressOf table options files first).files.patch path table options.dryRun =
        (.error e, last)
  /-- Places that are skipped have no part in the outcome, wherever they stand. -/
  unskipped : ∀ others, filePaths others = filePaths entries →
    SameReports options (patchEntries table options entries (start files none))
      (patchEntries table options others (start files none))

theorem sameReports (files : Files) (hpaths : filePaths others = filePaths entries) :
    SameReports options (patchEntries table options entries (start files none))
      (patchEntries table options others (start files none)) := by
  have hsame : progressOf table options files others = progressOf table options files entries := by
    rw [progressOf, hpaths, progressOf]
  rcases done_or_failing table options files entries with
    hdone | ⟨first, path, second, e, last, hsplit, hdone, hpatch, hall⟩
  · rw [patchEntries_of_done (start files none) rfl hdone,
      patchEntries_of_done (start files none) rfl (hsame ▸ hdone)]
    refine ⟨congrArg Files.Progress.files hsame, ?_, reportLines
      (progressOf table options files entries).done, ?_, ?_⟩
    · simp only [advanced, start, hsame]
      rfl
    · rw [bytesOf_append]
      rfl
    · simp only [advanced, start, hsame]
      rw [bytesOf_append]
      rfl
  · rcases done_or_failing table options files others with
      hdone' | ⟨first', path', second', e', last', hsplit', hdone', hpatch', hall'⟩
    · rw [hsame, hall] at hdone'
      cases hdone'
    · rw [hsplit, patchEntries_of_failing (start files none) rfl hdone hpatch, hsplit',
        patchEntries_of_failing (start files none) rfl hdone' hpatch']
      rw [hsame, hall, Files.Progress.mk.injEq, Option.some.injEq] at hall'
      obtain ⟨hreports, rfl, rfl⟩ := hall'
      refine ⟨rfl, rfl, ?_⟩
      simp only [advanced, printed, start] at hreports ⊢
      rw [hreports]

/-- Dealing with a list of reports is a fold that stops at the first failure. -/
theorem patchEntries_failStop (table : RuleTable) (options : Options) (files : Files)
    (entries : List Scanned) : FailStop table options files entries := by
  constructor
  · intro hdone
    refine ⟨_, _, _, patchEntries_of_done (start files none) rfl hdone, rfl,
      Files.map_done_of_done hdone, rfl, rfl, ?_, ?_, ?_⟩
    · rw [← Files.map_done_of_done hdone, List.length_map]
      exact (tally_length ⟨0, 0, 0⟩ _ _).trans (Nat.zero_add _)
    · rw [bytesOf_append]
      rfl
    · exact List.nil_append _
  · intro first path e last hdone hpatch
    exact ⟨_, rfl, rfl, Files.map_done_of_done hdone, List.nil_append _,
      fun second => patchEntries_of_failing (start files none) rfl hdone hpatch second⟩
  · rcases done_or_failing table options files entries with
      hdone | ⟨first, path, second, e, last, hsplit, hdone, hpatch, -⟩
    · exact .inl hdone
    · exact .inr ⟨first, path, second, e, last, hsplit, hdone, hpatch⟩
  · intro others hpaths
    exact sameReports files hpaths

end Run

end Emend

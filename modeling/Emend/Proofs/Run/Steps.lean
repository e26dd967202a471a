import Emend.Proofs.Patch.Series
import Emend.Proofs.Scan.Exact
import Emend.Run

/-!
# The steps of a run

A run is a sequence of steps, and the first that fails ends it.  What a step leaves
behind when it succeeds is said here once for each: a printed line adds to the
output, and a list of reports patches a series of files, with one line and one count
for each.
-/

namespace Emend

/-- A line says whether a file was fixed, and names it. -/
theorem Patched.line_eq (outcome : Patched) (path : Path) :
    outcome.line path = (if outcome = .fixed then "[FIXED] " else "[OK]    ") ++ path.display := by
  cases outcome <;> rfl

namespace Run

variable {α β : Type} {state after : RunState} {table : RuleTable} {options : Options}
  {path : Path} {line : String} {lines : List String} {entries : List Scanned}

/-! ## Sequences of steps -/

theorem bind_apply (step : RunStep α) (next : α → RunStep β) (state : RunState) :
    (step >>= next) state =
      match step state with
      | .ok a middle => next a middle
      | .error e middle => .error e middle := by
  change EStateM.bind step next state = _
  unfold EStateM.bind
  cases step state <;> rfl

theorem bind_ok {step : RunStep α} {next : α → RunStep β} {b : β}
    (hok : (step >>= next) state = .ok b after) :
    ∃ a middle, step state = .ok a middle ∧ next a middle = .ok b after := by
  rw [bind_apply] at hok
  cases hstep : step state with
  | ok a middle =>
    rw [hstep] at hok
    exact ⟨a, middle, rfl, hok⟩
  | error e middle =>
    rw [hstep] at hok
    cases hok

theorem forM_cons_apply (step : α → RunStep Unit) (a : α) (rest : List α) (state : RunState) :
    (a :: rest).forM step state =
      match step a state with
      | .ok _ middle => rest.forM step middle
      | .error e middle => .error e middle := by
  change (step a >>= fun _ => rest.forM step) state = _
  rw [bind_apply]
  cases step a state <;> rfl

theorem forM_append_apply (step : α → RunStep Unit) (first second : List α)
    (state : RunState) :
    (first ++ second).forM step state =
      match first.forM step state with
      | .ok _ middle => second.forM step middle
      | .error e middle => .error e middle := by
  induction first generalizing state with
  | nil => rfl
  | cons a first ih =>
    rw [List.cons_append, forM_cons_apply, forM_cons_apply]
    cases step a state with
    | ok _ middle => exact ih middle
    | error e middle => rfl

/-! ## Printing -/

def bytesOf (lines : List String) : Bytes := lines.flatMap fun line => Utf8.encode (line ++ "\n")

def printed (state : RunState) (lines : List String) : RunState :=
  { state with output := ⟨state.output.written ++ bytesOf lines, state.output.limit⟩ }

theorem bytesOf_append (first second : List String) :
    bytesOf (first ++ second) = bytesOf first ++ bytesOf second :=
  List.flatMap_append

theorem printed_nil (state : RunState) : printed state [] = state := by
  simp [printed, bytesOf]

theorem printed_printed (state : RunState) (first second : List String) :
    printed (printed state first) second = printed state (first ++ second) := by
  simp [printed, bytesOf]

theorem take_complete {output rest : Output} {bytes : Bytes}
    (htake : output.take bytes = (true, rest)) :
    rest = ⟨output.written ++ bytes, output.limit⟩ := by
  unfold Output.take at htake
  split at htake
  · rename_i hlimit
    cases htake
    simp [hlimit]
  · rename_i limit hlimit
    simp only [Prod.mk.injEq, decide_eq_true_eq] at htake
    obtain ⟨hroom, rfl⟩ := htake
    rw [List.take_of_length_le hroom]

theorem print_ok (hok : print line state = .ok () after) : after = printed state [line] := by
  unfold print at hok
  cases htake : state.output.take (Utf8.encode (line ++ "\n")) with
  | mk complete output =>
    rw [htake] at hok
    cases complete with
    | true =>
      cases hok
      simp [printed, bytesOf, take_complete htake]
    | false => cases hok

theorem print_unlimited (hlimit : state.output.limit = none) (line : String) :
    print line state = .ok () (printed state [line]) := by
  simp [print, Output.take, hlimit, printed, bytesOf]

theorem forM_print_unlimited (hlimit : state.output.limit = none) (lines : List String) :
    lines.forM print state = .ok () (printed state lines) := by
  induction lines generalizing state with
  | nil => rw [printed_nil]; rfl
  | cons line lines ih =>
    have hrest : lines.forM print (printed state [line]) =
        .ok () (printed (printed state [line]) lines) := ih hlimit
    rw [forM_cons_apply, print_unlimited hlimit]
    simp only [hrest, printed_printed, List.singleton_append]

theorem forM_print_ok (hok : lines.forM print state = .ok () after) :
    after = printed state lines := by
  induction lines generalizing state with
  | nil =>
    cases hok
    exact (printed_nil _).symm
  | cons line lines ih =>
    rw [forM_cons_apply] at hok
    cases hline : print line state with
    | ok _ middle =>
      rw [hline] at hok
      rw [ih hok, print_ok hline, printed_printed, List.singleton_append]
    | error e middle =>
      rw [hline] at hok
      cases hok

/-! ## Reports -/

/-- What a run has counted after some files more and some places skipped. -/
def counted (summary : Summary) (table : RuleTable) (log : List (Path × String))
    (skipped : Nat) : Summary :=
  ⟨summary.fixed + log.countP fun e => table.apply e.2 ≠ e.2,
    summary.unchanged + log.countP fun e => table.apply e.2 = e.2,
    summary.skipped + skipped⟩

theorem counted_skipped (summary : Summary) (table : RuleTable) (log : List (Path × String))
    (skipped : Nat) :
    counted { summary with skipped := summary.skipped + 1 } table log skipped =
      counted summary table log (skipped + 1) := by
  rw [counted, counted, Nat.add_assoc, Nat.add_comm 1]

theorem counted_file (summary : Summary) (table : RuleTable) (log : List (Path × String))
    (skipped : Nat) (path : Path) (text : String) :
    counted (Summary.count summary (Files.verdict table text)) table log skipped =
      counted summary table ((path, text) :: log) skipped := by
  by_cases hsame : table.apply text = text <;>
    simp [counted, Summary.count, Files.verdict, hsame] <;> omega

def linesOf (table : RuleTable) (log : List (Path × String)) : List String :=
  log.map fun e => (Files.verdict table e.2).line e.1

/-- The lines of a log say which files the rules changed. -/
theorem linesOf_eq (table : RuleTable) (log : List (Path × String)) :
    linesOf table log = log.map fun e =>
      (if table.apply e.2 = e.2 then "[OK]    " else "[FIXED] ") ++ e.1.display := by
  apply List.map_congr_left
  intro e _
  rw [Patched.line_eq]
  by_cases hsame : table.apply e.2 = e.2 <;> simp [Files.verdict, hsame]

/-- A file that has been dealt with was patched, and its line printed. -/
theorem handle_file_ok (hok : handle table options (.file path) state = .ok () after) :
    ∃ outcome middle,
      state.files.patch path table options.dryRun = (.ok outcome, middle) ∧
        after = printed { state with
          files := middle, summary := Summary.count state.summary outcome }
          [outcome.line path] := by
  obtain ⟨outcome, middle, hpatch, hprint⟩ := bind_ok hok
  unfold patchFile at hpatch
  cases hfiles : state.files.patch path table options.dryRun with
  | mk result files =>
    rw [hfiles] at hpatch
    cases result with
    | error e => cases hpatch
    | ok found =>
      cases hpatch
      exact ⟨_, _, rfl, print_ok hprint⟩

/-- A state after one file more that was patched, whose line is still to be printed. -/
def patching (state : RunState) (files : Files) (outcome : Patched) : RunState :=
  { state with files := files, summary := Summary.count state.summary outcome }

/-- A file that can be patched is patched, and then its line is printed. -/
theorem handle_eq_print {outcome : Patched} {files : Files}
    (hpatch : state.files.patch path table options.dryRun = (.ok outcome, files)) :
    handle table options (.file path) state =
      print (outcome.line path) (patching state files outcome) := by
  have hfile : patchFile table options path state =
      .ok outcome (patching state files outcome) := by
    rw [patchFile, hpatch]
    rfl
  change (patchFile table options path >>= fun outcome => print (outcome.line path)) state = _
  rw [bind_apply, hfile]

theorem handle_of_patch {files : Files} {outcome : Patched} (hlimit : state.output.limit = none)
    (hpatch : state.files.patch path table options.dryRun = (.ok outcome, files)) :
    handle table options (.file path) state =
      .ok () (printed { state with
        files := files, summary := Summary.count state.summary outcome }
        [outcome.line path]) := by
  have hnone : (patching state files outcome).output.limit = none := hlimit
  rw [handle_eq_print hpatch, print_unlimited hnone]
  rfl

theorem handle_skipped {place : Option Path} {reason : String} :
    handle table options (.skipped place reason) state =
      .ok () { state with
        summary := { state.summary with skipped := state.summary.skipped + 1 }
        warnings := state.warnings ++ [skippedLine place reason] } := rfl

/-- A list of reports has been dealt with: every file among them was patched in its turn,
with one line and one count for each. -/
structure Handled (table : RuleTable) (entries : List Scanned) (log : List (Path × String))
    (before after : RunState) : Prop where
  paths : log.map Prod.fst = entries.filterMap Scanned.file?
  series : Files.Series table log before.files after.files
  output : after.output = (printed before (linesOf table log)).output
  summary : after.summary = counted before.summary table log
    (entries.filterMap Scanned.skipped?).length

/-- A list of reports that is dealt with to its end patches a series of files. -/
theorem forM_handle_ok (hok : entries.forM (handle table ⟨false⟩) state = .ok () after) :
    ∃ log, Handled table entries log state after := by
  induction entries generalizing state with
  | nil =>
    cases hok
    exact ⟨[], rfl, .done, by simp [linesOf, printed, bytesOf], by simp [counted]⟩
  | cons entry entries ih =>
    rw [forM_cons_apply] at hok
    cases hentry : handle table ⟨false⟩ entry state with
    | error e middle =>
      rw [hentry] at hok
      cases hok
    | ok _ middle =>
      rw [hentry] at hok
      obtain ⟨log, hdone⟩ := ih hok
      cases entry with
      | skipped place reason =>
        rw [handle_skipped] at hentry
        cases hentry
        exact ⟨log, hdone.paths, hdone.series, hdone.output,
          hdone.summary.trans (counted_skipped _ _ _ _)⟩
      | file path =>
        obtain ⟨outcome, files, hpatch, rfl⟩ := handle_file_ok hentry
        obtain ⟨text, hlonger, rfl⟩ := Files.Series.of_patch hpatch hdone.series
        refine ⟨(path, text) :: log, ?_, hlonger, ?_, ?_⟩
        · rw [List.map_cons, hdone.paths]
          rfl
        · rw [hdone.output]
          simp [printed, bytesOf, linesOf]
        · exact hdone.summary.trans (counted_file _ _ _ _ _ _)

/-! ## The end -/

theorem finish_apply (options : Options) (state : RunState) :
    finish options state =
      ((footer state.summary options).forM print >>= fun _ => pure state.summary) state := rfl

theorem finish_unlimited (hlimit : state.output.limit = none) :
    finish options state =
      .ok state.summary (printed state (footer state.summary options)) := by
  rw [finish_apply, bind_apply, forM_print_unlimited hlimit]
  rfl

end Run

end Emend

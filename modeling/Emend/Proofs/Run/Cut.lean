import Emend.Proofs.Run.Stages

/-!
# Runs that are cut off

An output that takes `n` bytes takes the first `n` of what a run would print without
that limit.  The run ends there.  Every file is patched just before its line is
printed, so the files that have been patched by then are those whose lines begin among
these bytes or right after them.
-/

namespace Emend.Run

variable {α β : Type} {table : RuleTable} {options : Options} {config : Config}
  {state : RunState} {files : Files} {entries : List Scanned} {limit : Option Nat} {n : Nat}
  {text longer : Bytes} {lines : List String} {done : List (Path × Patched)}
  {offset : Nat}

/-! ## Lines and offsets -/

/-- The files whose lines begin at an offset of at most `n`, where the lines stand one
after the other from an offset on. -/
def startedBy (n : Nat) : Nat → List (Path × Patched) → List Path
  | _, [] => []
  | offset, (path, outcome) :: rest =>
    let later := startedBy n (offset + (bytesOf [outcome.line path]).length) rest
    if offset ≤ n then path :: later else later

theorem bytesOf_cons (line : String) (lines : List String) :
    bytesOf (line :: lines) = bytesOf [line] ++ bytesOf lines := bytesOf_append [line] lines

theorem reportLines_cons (e : Path × Patched) (done : List (Path × Patched)) :
    reportLines (e :: done) = e.2.line e.1 :: reportLines done := rfl

theorem length_reportLines_cons (e : Path × Patched) (done : List (Path × Patched)) :
    (bytesOf (reportLines (e :: done))).length =
      (bytesOf [e.2.line e.1]).length + (bytesOf (reportLines done)).length := by
  rw [reportLines, List.map_cons, bytesOf_cons, List.length_append]
  rfl

/-- No line begins before the offset from which on they stand. -/
theorem startedBy_of_lt (hoffset : n < offset) : startedBy n offset done = [] := by
  induction done generalizing offset with
  | nil => rfl
  | cons e done ih =>
    rw [startedBy, if_neg (Nat.not_le.mpr hoffset)]
    exact ih (Nat.lt_add_right _ hoffset)

/-- Every line begins before the offset at which the last one ends. -/
theorem startedBy_of_le (hoffset : offset + (bytesOf (reportLines done)).length ≤ n) :
    startedBy n offset done = done.map Prod.fst := by
  induction done generalizing offset with
  | nil => rfl
  | cons e done ih =>
    rw [length_reportLines_cons, ← Nat.add_assoc] at hoffset
    rw [startedBy, if_pos (by omega), ih hoffset, List.map_cons]

/-- The lines that begin by an offset are the first ones. -/
theorem startedBy_first (n offset : Nat) (done : List (Path × Patched)) :
    startedBy n offset done <+: done.map Prod.fst := by
  induction done generalizing offset with
  | nil => exact List.prefix_rfl
  | cons e done ih =>
    by_cases hoffset : offset ≤ n
    · rw [startedBy, if_pos hoffset, List.map_cons]
      exact List.cons_prefix_cons.mpr ⟨rfl, ih _⟩
    · rw [startedBy_of_lt (Nat.not_le.mp hoffset)]
      exact List.nil_prefix

/-! ## Steps that are cut off -/

/-- A step fails after the first `n` bytes of a text, with the files as they are then. -/
def CutOff (n : Nat) (text : Bytes) (files : Files)
    (result : EStateM.Result Error RunState α) : Prop :=
  ∃ after, result = .error .outputFailed after ∧ after.output.written = text.take n ∧
    after.files = files

/-- What follows a step that is cut off is not done. -/
theorem CutOff.bind {step : RunStep α} (hcut : CutOff n text files (step state))
    (next : α → RunStep β) : CutOff n text files ((step >>= next) state) := by
  obtain ⟨after, hstep, hwritten, hfiles⟩ := hcut
  refine ⟨after, ?_, hwritten, hfiles⟩
  rw [bind_apply, hstep]

/-- More text after the cut makes no difference. -/
theorem CutOff.mono {result : EStateM.Result Error RunState α}
    (hcut : CutOff n text files result) (hlength : n ≤ text.length) (hfirst : text <+: longer) :
    CutOff n longer files result := by
  obtain ⟨after, hresult, hwritten, hfiles⟩ := hcut
  obtain ⟨rest, rfl⟩ := hfirst
  exact ⟨after, hresult, by rw [hwritten, List.take_append_of_le_length hlength], hfiles⟩

/-! ## Printing -/

theorem print_fits {line : String}
    (hfits : (state.output.written ++ bytesOf [line]).length ≤ n) :
    print line (limited (some n) state) = .ok () (limited (some n) (printed state [line])) := by
  have hbytes : bytesOf [line] = Utf8.encode (line ++ "\n") := by simp [bytesOf]
  rw [List.length_append, hbytes] at hfits
  have hroom : (Utf8.encode (line ++ "\n")).length ≤ n - state.output.written.length := by omega
  simp [print, limited, Output.take, hroom, printed, hbytes]

/-- A line that does not fit is cut off, and the step fails. -/
theorem print_cutOff {line : String} (hroom : state.output.written.length ≤ n)
    (hcut : n < (state.output.written ++ bytesOf [line]).length) :
    CutOff n (state.output.written ++ bytesOf [line]) state.files
      (print line (limited (some n) state)) := by
  have hbytes : bytesOf [line] = Utf8.encode (line ++ "\n") := by simp [bytesOf]
  rw [List.length_append, hbytes] at hcut
  have hlong : ¬(Utf8.encode (line ++ "\n")).length ≤ n - state.output.written.length := by omega
  have htake : (state.output.written ++ bytesOf [line]).take n = state.output.written ++
      (Utf8.encode (line ++ "\n")).take (n - state.output.written.length) := by
    rw [List.take_append, List.take_of_length_le hroom, hbytes]
  refine ⟨{ state with output := ⟨(state.output.written ++ bytesOf [line]).take n, some n⟩ },
    ?_, rfl, rfl⟩
  simp [print, limited, Output.take, hlong, htake]

theorem forM_print_fits (state : RunState)
    (hfits : (state.output.written ++ bytesOf lines).length ≤ n) :
    lines.forM print (limited (some n) state) =
      .ok () (limited (some n) (printed state lines)) := by
  induction lines generalizing state with
  | nil =>
    rw [printed_nil]
    rfl
  | cons line lines ih =>
    rw [bytesOf_cons, ← List.append_assoc] at hfits
    have hline : (state.output.written ++ bytesOf [line]).length ≤ n := by
      rw [List.length_append] at hfits
      omega
    have hrest := @ih (printed state [line]) hfits
    rw [printed_printed] at hrest
    rw [forM_cons_apply, print_fits hline]
    exact hrest

theorem forM_print_cutOff (state : RunState) (hroom : state.output.written.length ≤ n)
    (hcut : n < (state.output.written ++ bytesOf lines).length) :
    CutOff n (state.output.written ++ bytesOf lines) state.files
      (lines.forM print (limited (some n) state)) := by
  induction lines generalizing state with
  | nil =>
    rw [bytesOf, List.flatMap_nil, List.append_nil] at hcut
    omega
  | cons line lines ih =>
    rw [bytesOf_cons, ← List.append_assoc] at hcut ⊢
    by_cases hline : (state.output.written ++ bytesOf [line]).length ≤ n
    · have hrest := @ih (printed state [line]) hline hcut
      rw [forM_cons_apply, print_fits hline]
      exact hrest
    · rw [Nat.not_le] at hline
      exact ((print_cutOff hroom hline).bind fun _ => lines.forM print).mono hline.le
        (List.prefix_append _ _)

/-! ## Reports -/

/-- Without a limit, a list of reports prints one line for every file that it patches. -/
theorem textOf_forM_handle (hlimit : state.output.limit = none) (entries : List Scanned) :
    textOf (entries.forM (handle table options) state) = state.output.written ++
      bytesOf (reportLines (progressOf table options state.files entries).done) := by
  rcases done_or_failing table options state.files entries with
    hdone | ⟨first, path, second, e, last, hsplit, hdone, hpatch, hall⟩
  · rw [forM_handle_of_done hlimit hdone]
    rfl
  · rw [hall, hsplit, forM_handle_of_failing hlimit hdone hpatch]
    rfl

theorem length_le_of_append {first second : Bytes} (hlength : (first ++ second).length ≤ n) :
    first.length ≤ n := by
  rw [List.length_append] at hlength
  omega

theorem patching_limited {last : Files} {outcome : Patched} :
    patching (limited limit state) last outcome = limited limit (patching state last outcome) :=
  rfl

theorem written_printed (state : RunState) (lines : List String) :
    (printed state lines).output.written = state.output.written ++ bytesOf lines := rfl

theorem forM_handle_fits (hlimit : state.output.limit = none)
    (hfits : (textOf (entries.forM (handle table options) state)).length ≤ n) :
    entries.forM (handle table options) (limited (some n) state) =
      limitedResult (some n) (entries.forM (handle table options) state) := by
  rw [textOf_forM_handle hlimit] at hfits
  induction entries generalizing state with
  | nil => rfl
  | cons entry entries ih =>
    cases entry with
    | skipped place reason => exact @ih (skipping state place reason) hlimit hfits
    | file path =>
      rcases hpatch : state.files.patch path table options.dryRun with ⟨e | outcome, last⟩
      · rw [forM_handle_error state hpatch, forM_handle_error (limited (some n) state) hpatch]
        rfl
      · rw [progressOf_ok hpatch, reportLines_cons, bytesOf_cons, ← List.append_assoc] at hfits
        have hprint : print (outcome.line path) (limited (some n) (patching state last outcome)) =
            _ := print_fits (length_le_of_append hfits)
        have hrest := @ih (printed (patching state last outcome) [outcome.line path])
          hlimit hfits
        rw [forM_handle_unlimited hlimit hpatch, ← hrest,
          forM_handle_print (limited (some n) state) hpatch, patching_limited,
          bind_apply, hprint]

/-- A list of reports that is cut off has patched the files whose lines have begun. -/
theorem forM_handle_cutOff (hlimit : state.output.limit = none)
    (hroom : state.output.written.length ≤ n)
    (hcut : n < (textOf (entries.forM (handle table options) state)).length) :
    CutOff n (textOf (entries.forM (handle table options) state))
      (state.files.patchAll table options.dryRun
        (startedBy n state.output.written.length
          (progressOf table options state.files entries).done)).files
      (entries.forM (handle table options) (limited (some n) state)) := by
  rw [textOf_forM_handle hlimit] at hcut ⊢
  induction entries generalizing state with
  | nil =>
    rw [show bytesOf (reportLines (progressOf table options state.files []).done) = [] from rfl,
      List.append_nil] at hcut
    omega
  | cons entry entries ih =>
    cases entry with
    | skipped place reason => exact @ih (skipping state place reason) hlimit hroom hcut
    | file path =>
      rcases hpatch : state.files.patch path table options.dryRun with ⟨e | outcome, last⟩
      · rw [progressOf_error hpatch, show bytesOf (reportLines []) = [] from rfl,
          List.append_nil] at hcut
        omega
      · rw [progressOf_ok hpatch, reportLines_cons, bytesOf_cons, ← List.append_assoc] at hcut
        rw [progressOf_ok hpatch, reportLines_cons, bytesOf_cons, ← List.append_assoc,
          startedBy, if_pos hroom, Files.patchAll_cons_ok hpatch,
          forM_handle_print (limited (some n) state) hpatch, patching_limited]
        by_cases hline : (state.output.written ++ bytesOf [outcome.line path]).length ≤ n
        · have hprint : print (outcome.line path)
              (limited (some n) (patching state last outcome)) = _ := print_fits hline
          have hrest := @ih (printed (patching state last outcome) [outcome.line path])
            hlimit hline hcut
          rw [written_printed, List.length_append] at hrest
          rw [bind_apply, hprint]
          exact hrest
        · rw [Nat.not_le] at hline
          have hnone : startedBy n (state.output.written.length +
              (bytesOf [outcome.line path]).length)
              (progressOf table options last entries).done = [] :=
            startedBy_of_lt (by rwa [List.length_append] at hline)
          have hprint : CutOff n (state.output.written ++ bytesOf [outcome.line path]) last
              (print (outcome.line path) (limited (some n) (patching state last outcome))) :=
            print_cutOff hroom hline
          rw [hnone]
          exact (hprint.bind fun _ => entries.forM (handle table options)).mono hline.le
            (List.prefix_append _ _)

/-! ## The end of a run -/

theorem finish_fits
    (hfits : (state.output.written ++ bytesOf (footer state.summary options)).length ≤ n) :
    finish options (limited (some n) state) =
      .ok state.summary (limited (some n) (printed state (footer state.summary options))) := by
  have hsummary : (limited (some n) state).summary = state.summary := rfl
  rw [finish_apply, hsummary, bind_apply, forM_print_fits state hfits]
  rfl

theorem finish_cutOff (hroom : state.output.written.length ≤ n)
    (hcut : n < (state.output.written ++ bytesOf (footer state.summary options)).length) :
    CutOff n (state.output.written ++ bytesOf (footer state.summary options)) state.files
      (finish options (limited (some n) state)) := by
  have hsummary : (limited (some n) state).summary = state.summary := rfl
  rw [finish_apply, hsummary]
  exact (forM_print_cutOff state hroom hcut).bind _

theorem unlimited_of_forM {after : RunState} (hlimit : state.output.limit = none)
    (hok : entries.forM (handle table options) state = .ok () after) :
    after.output.limit = none := by
  have hsame : entries.forM (handle table options) (limited none state) = .ok () after := by
    rw [limited_of_unlimited hlimit, hok]
  obtain ⟨middle, -, -, rfl⟩ := forM_handle_limited_ok hlimit hsame
  rfl

/-- What reports print stands at the beginning of the whole text. -/
theorem textOf_forM_handle_first (hlimit : state.output.limit = none) :
    textOf (entries.forM (handle table options) state) <+:
      textOf (patchEntries table options entries state) := by
  rw [patchEntries, bind_apply]
  cases hentries : entries.forM (handle table options) state with
  | error e middle => exact List.prefix_rfl
  | ok _ middle =>
    simp only
    rw [finish_unlimited (unlimited_of_forM hlimit hentries)]
    exact List.prefix_append _ _

/-- Reports are dealt with under a limit as without one, if their text fits. -/
theorem patchEntries_fits (hlimit : state.output.limit = none)
    (hfits : (textOf (patchEntries table options entries state)).length ≤ n) :
    patchEntries table options entries (limited (some n) state) =
      limitedResult (some n) (patchEntries table options entries state) := by
  have hreports := forM_handle_fits hlimit
    ((textOf_forM_handle_first hlimit).length_le.trans hfits)
  rw [patchEntries, bind_apply] at hfits
  rw [patchEntries, bind_apply, bind_apply, hreports]
  cases hentries : entries.forM (handle table options) state with
  | error e middle => rfl
  | ok _ middle =>
    have hend : finish options middle = _ :=
      finish_unlimited (unlimited_of_forM hlimit hentries)
    rw [hentries] at hfits
    simp only [hend] at hfits
    simp only [limitedResult, finish_fits hfits, hend]

/-- The limit cuts the text off, and the files are patched whose lines have begun by then. -/
theorem patchEntries_cutOff (state : RunState) (hlimit : state.output.limit = none)
    (hroom : state.output.written.length ≤ n)
    (hcut : n < (textOf (patchEntries table options entries state)).length) :
    CutOff n (textOf (patchEntries table options entries state))
      (state.files.patchAll table options.dryRun
        (startedBy n state.output.written.length
          (progressOf table options state.files entries).done)).files
      (patchEntries table options entries (limited (some n) state)) := by
  by_cases hreports : n < (textOf (entries.forM (handle table options) state)).length
  · exact ((forM_handle_cutOff hlimit hroom hreports).bind fun _ => finish options).mono
      hreports.le (textOf_forM_handle_first hlimit)
  · rw [Nat.not_lt] at hreports
    have hfits := forM_handle_fits hlimit hreports
    rcases done_or_failing table options state.files entries with
      hdone | ⟨first, path, second, e, last, hsplit, hdone, hpatch, hall⟩
    · have hentries := forM_handle_of_done hlimit hdone
      have hlines : startedBy n state.output.written.length
          (progressOf table options state.files entries).done = _ :=
        startedBy_of_le (by rwa [textOf_forM_handle hlimit, List.length_append] at hreports)
      have hpaths : (progressOf table options state.files entries).done.map Prod.fst =
          filePaths entries := Files.map_done_of_done hdone
      rw [hlines, hpaths]
      rw [patchEntries, bind_apply, hentries] at hcut
      rw [patchEntries, bind_apply, bind_apply, hfits, hentries]
      rw [hentries] at hreports
      simp only [finish_unlimited (unlimited_of_forM hlimit hentries)] at hcut ⊢
      exact finish_cutOff hreports hcut
    · have hentries := forM_handle_of_failing hlimit hdone hpatch second
      rw [← hsplit] at hentries
      rw [patchEntries, bind_apply, hentries] at hcut
      rw [hentries] at hreports
      exact absurd hcut (Nat.not_lt.mpr hreports)

/-! ## The whole run -/

/-- What follows the lines of a run: its footer, if every file could be patched. -/
def ending (options : Options) (progress : Files.Progress) (skipped : Nat) : List String :=
  match progress.failure with
  | none => footer (tally ⟨0, 0, 0⟩ progress.done skipped) options
  | some _ => []

theorem announce_unlimited :
    announce config table options entries (start files none) =
      patchEntries table options entries
        (printed (start files none) (banner config table options)) := by
  rw [announce, bind_apply, forM_print_unlimited rfl]

theorem announce_of_done (config : Config)
    (hdone : (progressOf table options files entries).failure = none) :
    announce config table options entries (start files none) =
      let done := advanced (printed (start files none) (banner config table options)) entries
        (progressOf table options files entries)
      .ok done.summary (printed done (footer done.summary options)) :=
  announce_unlimited.trans
    (patchEntries_of_done (printed (start files none) (banner config table options)) rfl hdone)

theorem announce_of_failing {first : List Scanned} {path : Path} {e : Error} {last : Files}
    (config : Config) (hdone : (progressOf table options files first).failure = none)
    (hpatch : (progressOf table options files first).files.patch path table options.dryRun =
      (.error e, last)) (second : List Scanned) :
    announce config table options (first ++ .file path :: second) (start files none) =
      .error e (advanced (printed (start files none) (banner config table options)) first
        { progressOf table options files first with files := last }) :=
  announce_unlimited.trans
    (patchEntries_of_failing (printed (start files none) (banner config table options)) rfl hdone
      hpatch second)

/-- What a run prints without a limit, and the files that it leaves. -/
theorem announce_account (config : Config) (table : RuleTable) (options : Options)
    (files : Files) (entries : List Scanned) :
    textOf (announce config table options entries (start files none)) =
        bytesOf (banner config table options ++
          reportLines (progressOf table options files entries).done ++
          ending options (progressOf table options files entries) (skipCount entries)) ∧
      (stateOf (announce config table options entries (start files none))).files =
        (progressOf table options files entries).files := by
  rw [bytesOf_append, bytesOf_append]
  rcases done_or_failing table options files entries with
    hdone | ⟨first, path, second, e, last, hsplit, hdone, hpatch, hall⟩
  · rw [announce_of_done config hdone, ending, hdone]
    exact ⟨rfl, rfl⟩
  · rw [hall, hsplit, announce_of_failing config hdone hpatch]
    exact ⟨(List.append_nil _).symm, rfl⟩

/-- A run whose text fits under a limit does not notice it. -/
theorem announce_fits
    (hfits : (textOf (announce config table options entries (start files none))).length ≤ n) :
    announce config table options entries (start files (some n)) =
      limitedResult (some n) (announce config table options entries (start files none)) := by
  have hbanner : ((start files none).output.written ++
      bytesOf (banner config table options)).length ≤ n := by
    rw [(announce_account ..).1, bytesOf_append, bytesOf_append, List.append_assoc] at hfits
    exact length_le_of_append hfits
  have hprint : (banner config table options).forM print (start files (some n)) = _ :=
    forM_print_fits (start files none) hbanner
  rw [announce_unlimited] at hfits ⊢
  rw [announce, bind_apply, hprint]
  exact patchEntries_fits rfl hfits

/-- A run whose text does not fit is cut off, with the files patched whose lines have begun. -/
theorem announce_cutOff
    (hcut : n < (textOf (announce config table options entries (start files none))).length) :
    CutOff n (textOf (announce config table options entries (start files none)))
      (files.patchAll table options.dryRun
        (startedBy n (bytesOf (banner config table options)).length
          (progressOf table options files entries).done)).files
      (announce config table options entries (start files (some n))) := by
  by_cases hbanner : (bytesOf (banner config table options)).length ≤ n
  · have hprint : (banner config table options).forM print (start files (some n)) = _ :=
      forM_print_fits (start files none) hbanner
    rw [announce_unlimited] at hcut ⊢
    rw [announce, bind_apply, hprint]
    exact patchEntries_cutOff (printed (start files none) _) rfl hbanner hcut
  · rw [Nat.not_le] at hbanner
    have hprint : CutOff n (bytesOf (banner config table options)) files
        ((banner config table options).forM print (start files (some n))) :=
      forM_print_cutOff (start files none) (Nat.zero_le n) hbanner
    rw [startedBy_of_lt hbanner]
    refine (hprint.bind fun _ => patchEntries table options entries).mono hbanner.le ?_
    rw [(announce_account ..).1, bytesOf_append, bytesOf_append, List.append_assoc]
    exact List.prefix_append _ _

/-- How a run whose output takes `n` bytes compares with the run without that limit. -/
structure CutCleanly (config : Config) (options : Options) (files : Files) (n : Nat) : Prop where
  /-- If the whole text fits, nothing is different. -/
  fits : (textOf (run config options (start files none))).length ≤ n →
    run config options (start files (some n)) =
      limitedResult (some n) (run config options (start files none))
  /-- Otherwise the output fails after the first `n` bytes, when exactly those files have
  been patched whose lines begin at an offset of at most `n`. -/
  cut : n < (textOf (run config options (start files none))).length →
    ∃ table progress, RuleTable.compile config.rules = .ok table ∧
      progress = progressOf table options files (encountered config table options files) ∧
      textOf (run config options (start files none)) =
        bytesOf (banner config table options ++ reportLines progress.done ++
          ending options progress (skipCount (encountered config table options files))) ∧
      (stateOf (run config options (start files none))).files = progress.files ∧
      ∃ after, run config options (start files (some n)) = .error .outputFailed after ∧
        after.output.written = (textOf (run config options (start files none))).take n ∧
        after.files = (files.patchAll table options.dryRun
          (startedBy n (bytesOf (banner config table options)).length progress.done)).files

/-- An output that fails cuts a run cleanly. -/
theorem run_cutCleanly (config : Config) (options : Options) (files : Files) (n : Nat) :
    CutCleanly config options files n := by
  rcases refused_or_accepted config options files with
    ⟨e, hrefused⟩ | ⟨hvalid, ⟨table, hcompile⟩, hroot⟩
  · have hnone := hrefused (start files none) rfl
    constructor
    · intro _
      rw [hnone, hrefused (start files (some n)) rfl]
      rfl
    · intro hcut
      rw [hnone] at hcut
      exact absurd hcut (Nat.not_lt_zero n)
  · have hrun : ∀ limit, run config options (start files limit) = _ :=
      run_eq_announce hvalid hcompile hroot
    obtain ⟨htext, hfiles⟩ := announce_account config table options files
      (encountered config table options files)
    constructor
    · intro hfits
      rw [hrun] at hfits
      rw [hrun, hrun]
      exact announce_fits hfits
    · intro hcut
      rw [hrun] at hcut
      rw [hrun, hrun]
      exact ⟨table, _, hcompile, rfl, htext, hfiles, announce_cutOff hcut⟩

end Emend.Run

import Emend.Proofs.Run.FailStop
import Emend.Proofs.Run.Walk

/-!
# The stages of a run

A run is refused before it prints anything, or it prints its banner, deals with what
its walk comes to, and prints its footer.  What the walk comes to is the list of
reports that it would deal with if its output had no limit: with a limit it deals with
the same list, only perhaps not to the end.
-/

namespace Emend.Run

variable {α β : Type} {scanner : Scanner} {table : RuleTable} {options : Options}
  {config : Config} {state after : RunState} {depth : Nat} {visit : Visit}
  {visits : List Visit} {files : Files} {entries : List Scanned} {limit : Option Nat}

/-! ## Limits of the output -/

def stateOf : EStateM.Result Error RunState α → RunState
  | .ok _ state | .error _ state => state

def textOf (result : EStateM.Result Error RunState α) : Bytes := (stateOf result).output.written

def limited (limit : Option Nat) (state : RunState) : RunState :=
  { state with output := ⟨state.output.written, limit⟩ }

def limitedResult (limit : Option Nat) :
    EStateM.Result Error RunState α → EStateM.Result Error RunState α
  | .ok a state => .ok a (limited limit state)
  | .error e state => .error e (limited limit state)

theorem limited_of_unlimited (hlimit : state.output.limit = none) : limited none state = state := by
  obtain ⟨files, ⟨written, limit⟩, warnings, summary⟩ := state
  cases hlimit
  rfl

/-- Where the output has room enough, patching a file goes on as without a limit. -/
theorem handle_limited_ok {entry : Scanned} (hlimit : state.output.limit = none)
    (hok : handle table options entry (limited limit state) = .ok () after) :
    ∃ middle, handle table options entry state = .ok () middle ∧
      middle.output.limit = none ∧ after = limited limit middle := by
  cases entry with
  | skipped place reason =>
    cases hok
    exact ⟨_, handle_skipped, hlimit, rfl⟩
  | file path =>
    obtain ⟨outcome, middle, hpatch, rfl⟩ := handle_file_ok hok
    exact ⟨_, handle_of_patch hlimit hpatch, hlimit, rfl⟩

theorem forM_handle_limited_ok (hlimit : state.output.limit = none)
    (hok : entries.forM (handle table options) (limited limit state) = .ok () after) :
    ∃ middle, entries.forM (handle table options) state = .ok () middle ∧
      middle.output.limit = none ∧ after = limited limit middle := by
  induction entries generalizing state with
  | nil =>
    cases hok
    exact ⟨state, rfl, hlimit, rfl⟩
  | cons entry entries ih =>
    rw [forM_cons_apply] at hok
    cases hentry : handle table options entry (limited limit state) with
    | error e middle =>
      rw [hentry] at hok
      cases hok
    | ok _ middle =>
      rw [hentry] at hok
      obtain ⟨first, hfirst, hnone, rfl⟩ := handle_limited_ok hlimit hentry
      obtain ⟨last, hlast, hlater, rfl⟩ := ih hnone hok
      refine ⟨last, ?_, hlater, rfl⟩
      rw [forM_cons_apply, hfirst]
      exact hlast

/-! ## What a walk comes to -/

/-- What a walk through several places comes to, as long as it can be dealt with. -/
def encountersEach (table : RuleTable) (options : Options)
    (encounter : Visit → RunState → List Scanned) : List Visit → RunState → List Scanned
  | [], _ => []
  | visit :: visits, state =>
    let here := encounter visit state
    match here.forM (handle table options) state with
    | .ok _ middle => here ++ encountersEach table options encounter visits middle
    | .error _ _ => here

/-- What a walk comes to at a place and below it, while everything that it comes to is
dealt with at once. -/
def encounters (scanner : Scanner) (table : RuleTable) (options : Options) :
    Nat → Visit → RunState → List Scanned
  | 0, _, _ => []
  | depth + 1, visit, state =>
    let (found, below) := scanner.expand state.files visit
    match found.forM (handle table options) state with
    | .ok _ middle =>
      found ++ encountersEach table options (encounters scanner table options depth) below middle
    | .error _ _ => found

theorem encounters_succ :
    encounters scanner table options (depth + 1) visit state =
      match (scanner.expand state.files visit).1.forM (handle table options) state with
      | .ok _ middle =>
        (scanner.expand state.files visit).1 ++
          encountersEach table options (encounters scanner table options depth)
            (scanner.expand state.files visit).2 middle
      | .error _ _ => (scanner.expand state.files visit).1 := rfl

theorem forM_eq_encountersEach {step : Visit → RunStep Unit}
    {encounter : Visit → RunState → List Scanned}
    (hstep : ∀ visit state, state.output.limit = none → step visit (limited limit state) =
      (encounter visit state).forM (handle table options) (limited limit state))
    (hlimit : state.output.limit = none) :
    visits.forM step (limited limit state) =
      (encountersEach table options encounter visits state).forM (handle table options)
        (limited limit state) := by
  induction visits generalizing state with
  | nil => rfl
  | cons visit visits ih =>
    rw [forM_cons_apply, hstep visit state hlimit, encountersEach]
    cases hhere : (encounter visit state).forM (handle table options) (limited limit state) with
    | error e middle =>
      cases (encounter visit state).forM (handle table options) state with
      | ok _ first => simp only [forM_append_apply, hhere]
      | error e first => exact hhere.symm
    | ok _ middle =>
      obtain ⟨first, hfirst, hnone, rfl⟩ := forM_handle_limited_ok hlimit hhere
      simp only [hfirst]
      rw [forM_append_apply, hhere]
      exact ih hnone

/-- Walking while patching is dealing with what the walk comes to, whatever the limit of
the output is. -/
theorem patchBelow_eq_encounters (state : RunState) (limit : Option Nat)
    (hlimit : state.output.limit = none) :
    patchBelow scanner table options depth visit (limited limit state) =
      (encounters scanner table options depth visit state).forM (handle table options)
        (limited limit state) := by
  induction depth generalizing visit state with
  | zero => rfl
  | succ depth ih =>
    have hfiles : (limited limit state).files = state.files := rfl
    rw [patchBelow_succ, encounters_succ, hfiles]
    cases hfound : (scanner.expand state.files visit).1.forM (handle table options)
        (limited limit state) with
    | error e middle =>
      cases (scanner.expand state.files visit).1.forM (handle table options) state with
      | ok _ first => simp only [forM_append_apply, hfound]
      | error e first => exact hfound.symm
    | ok _ middle =>
      obtain ⟨first, hfirst, hnone, rfl⟩ := forM_handle_limited_ok hlimit hfound
      simp only [hfirst]
      rw [forM_append_apply, hfound]
      exact forM_eq_encountersEach (fun _ later => ih later) hnone

/-! ## From the configuration to the footer -/

/-- The part of a run after its checks, where the walk comes to a list of reports. -/
def announce (config : Config) (table : RuleTable) (options : Options)
    (entries : List Scanned) : RunStep Summary := do
  (banner config table options).forM print
  patchEntries table options entries

/-- A run is refused at once, for the same reason under every limit, or it passes all
checks. -/
theorem refused_or_accepted (config : Config) (options : Options) (files : Files) :
    (∃ e, ∀ state, state.files = files → run config options state = .error e state) ∨
      config.validate = .ok () ∧ (∃ table, RuleTable.compile config.rules = .ok table) ∧
        files.isDirectory config.root = true := by
  cases hvalid : config.validate with
  | error e =>
    exact .inl ⟨e, fun state _ => run_of_invalid hvalid⟩
  | ok =>
    cases hcompile : RuleTable.compile config.rules with
    | error e =>
      exact .inl ⟨e, fun state _ => run_of_uncompiled hvalid hcompile⟩
    | ok table =>
      cases hroot : files.isDirectory config.root with
      | false =>
        refine .inl ⟨.rootNotDirectory config.root, ?_⟩
        rintro state rfl
        exact run_of_no_directory hvalid hcompile hroot
      | true => exact .inr ⟨rfl, ⟨table, rfl⟩, rfl⟩

/-- After its checks a run announces itself, if its walk does nothing but deal with some reports. -/
theorem run_of_accepted (hvalid : config.validate = .ok ())
    (hcompile : RuleTable.compile config.rules = .ok table)
    (hroot : state.files.isDirectory config.root = true)
    (hbelow : ∀ middle, (banner config table options).forM print state = .ok () middle →
      patchBelow (.ofConfig config) table options Files.pathLimit (.root config.root) middle =
        entries.forM (handle table options) middle) :
    run config options state = announce config table options entries state := by
  rw [run_checked hvalid hcompile hroot, announce, bind_apply, bind_apply]
  cases hbanner : (banner config table options).forM print state with
  | error e middle => rfl
  | ok _ middle =>
    simp only
    rw [bind_apply, hbelow middle hbanner, patchEntries, bind_apply]

/-- The reports that a run comes to from its start. -/
def encountered (config : Config) (table : RuleTable) (options : Options) (files : Files) :
    List Scanned :=
  encounters (.ofConfig config) table options Files.pathLimit (.root config.root)
    (printed (start files none) (banner config table options))

/-- A run that passes its checks deals with the reports that it comes to. -/
theorem run_eq_announce (hvalid : config.validate = .ok ())
    (hcompile : RuleTable.compile config.rules = .ok table)
    (hroot : files.isDirectory config.root = true) (limit : Option Nat) :
    run config options (start files limit) =
      announce config table options (encountered config table options files)
        (start files limit) := by
  apply run_of_accepted hvalid hcompile hroot
  intro middle hbanner
  rw [forM_print_ok hbanner]
  exact patchBelow_eq_encounters (printed (start files none) (banner config table options))
    limit rfl

/-- In a tree without links, a run that passes its checks deals with what a scan finds. -/
theorem run_eq_announce_scan (hwell : files.tree.WellFormed) (hfree : files.tree.LinkFree)
    (hvalid : config.validate = .ok ()) (hcompile : RuleTable.compile config.rules = .ok table)
    (hroot : files.isDirectory config.root = true) (limit : Option Nat) :
    run config options (start files limit) =
      announce config table options ((Scanner.ofConfig config).scan files)
        (start files limit) := by
  apply run_of_accepted hvalid hcompile hroot
  intro middle hbanner
  obtain rfl : files = middle.files := by
    rw [forM_print_ok hbanner]
    rfl
  exact patchBelow_eq_scan hwell hfree hroot

end Emend.Run

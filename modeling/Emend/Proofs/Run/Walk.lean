import Emend.Proofs.Patch.Placement
import Emend.Proofs.Run.Steps
import Emend.Proofs.Scan.Arrivals

/-!
# Walking and patching

A run lists a directory only when it comes there, after it has patched files
elsewhere.  What it deals with is a list of reports all the same.  In a tree without
links this list is the scan of the tree as it was at the start: patching a file
changes the listing of its own directory alone, and that has been listed by then.
-/

namespace Emend.Run

variable {scanner : Scanner} {table : RuleTable} {options : Options} {config : Config}
  {state after : RunState} {depth : Nat} {visit : Visit} {visits : List Visit}
  {summary : Summary}

/-- What is found at a place is dealt with before what is below it. -/
theorem patchBelow_eq_bind :
    patchBelow scanner table options (depth + 1) visit state =
      ((scanner.expand state.files visit).1.forM (handle table options) >>= fun _ =>
        (scanner.expand state.files visit).2.forM
          (patchBelow scanner table options depth)) state := rfl

theorem patchBelow_succ :
    patchBelow scanner table options (depth + 1) visit state =
      match (scanner.expand state.files visit).1.forM (handle table options) state with
      | .ok _ middle =>
        (scanner.expand state.files visit).2.forM
          (patchBelow scanner table options depth) middle
      | .error e middle => .error e middle := by
  rw [patchBelow_eq_bind, bind_apply]
  cases (scanner.expand state.files visit).1.forM (handle table options) state <;> rfl

theorem patchBelow_of_directory {below : List Visit}
    (hexpand : scanner.expand state.files visit = ([], below)) :
    patchBelow scanner table options (depth + 1) visit state =
      below.forM (patchBelow scanner table options depth) state := by
  rw [patchBelow_succ, hexpand]
  rfl

theorem patchBelow_of_file {path : Path}
    (hexpand : scanner.expand state.files visit = ([.file path], [])) :
    patchBelow scanner table options (depth + 1) visit state =
      handle table options (.file path) state := by
  rw [patchBelow_succ, hexpand, forM_cons_apply]
  cases handle table options (.file path) state <;> rfl

/-! ## Any tree -/

/-- Steps that deal with lists of reports do so one after the other. -/
theorem exists_entries_forM {step : Visit → RunStep Unit}
    (hstep : ∀ visit state, ∃ entries : List Scanned,
      step visit state = entries.forM (handle table options) state)
    (visits : List Visit) (state : RunState) :
    ∃ entries : List Scanned,
      visits.forM step state = entries.forM (handle table options) state := by
  induction visits generalizing state with
  | nil => exact ⟨[], rfl⟩
  | cons visit visits ih =>
    obtain ⟨first, hfirst⟩ := hstep visit state
    rw [forM_cons_apply, hfirst]
    cases hresult : first.forM (handle table options) state with
    | error e middle => exact ⟨first, hresult.symm⟩
    | ok _ middle =>
      obtain ⟨second, hsecond⟩ := ih middle
      refine ⟨first ++ second, ?_⟩
      rw [forM_append_apply, hresult]
      exact hsecond

/-- Walking while patching deals with a list of reports. -/
theorem exists_entries (scanner : Scanner) (table : RuleTable) (options : Options)
    (depth : Nat) (visit : Visit) (state : RunState) :
    ∃ entries : List Scanned, patchBelow scanner table options depth visit state =
      entries.forM (handle table options) state := by
  induction depth generalizing visit state with
  | zero => exact ⟨[], rfl⟩
  | succ depth ih =>
    rw [patchBelow_succ]
    cases hfound : (scanner.expand state.files visit).1.forM (handle table options) state with
    | error e middle => exact ⟨_, hfound.symm⟩
    | ok _ middle =>
      obtain ⟨below, hbelow⟩ :=
        exists_entries_forM ih (scanner.expand state.files visit).2 middle
      refine ⟨(scanner.expand state.files visit).1 ++ below, ?_⟩
      rw [forM_append_apply, hfound]
      exact hbelow

theorem liftExcept_ok {α : Type} {outcome : Except Error α} {a : α}
    (hok : run.liftExcept outcome state = .ok a after) : outcome = .ok a ∧ after = state := by
  cases outcome with
  | ok b => cases hok; exact ⟨rfl, rfl⟩
  | error e => cases hok

theorem finish_ok (hok : finish options state = .ok summary after) :
    summary = state.summary ∧ after = printed state (footer summary options) := by
  obtain ⟨found, first, hfound, hok⟩ := bind_ok hok
  cases hfound
  obtain ⟨_, second, hprint, hok⟩ := bind_ok hok
  cases hok
  exact ⟨rfl, forM_print_ok hprint⟩

/-- What a run that ends well has gone through. -/
theorem run_ok (hok : run config options state = .ok summary after) :
    ∃ table middle, config.validate = .ok () ∧ RuleTable.compile config.rules = .ok table ∧
      state.files.isDirectory config.root = true ∧
      patchBelow (.ofConfig config) table options Files.pathLimit (.root config.root)
        (printed state (banner config table options)) = .ok () middle ∧
      summary = middle.summary ∧ after = printed middle (footer summary options) := by
  obtain ⟨_, first, hvalidate, hcompiles⟩ := bind_ok hok
  obtain ⟨hvalid, rfl⟩ := liftExcept_ok hvalidate
  obtain ⟨table, second, hcompile, hlooks⟩ := bind_ok hcompiles
  obtain ⟨htable, rfl⟩ := liftExcept_ok hcompile
  obtain ⟨found, third, hfound, hchecks⟩ := bind_ok hlooks
  cases hfound
  cases hroot : second.files.isDirectory config.root with
  | false =>
    simp only [hroot] at hchecks
    cases hchecks
  | true =>
    simp only [hroot] at hchecks
    obtain ⟨_, fourth, hbanner, hwalks⟩ := bind_ok hchecks
    obtain ⟨_, middle, hbelow, hends⟩ := bind_ok hwalks
    obtain ⟨hsummary, hafter⟩ := finish_ok hends
    rw [forM_print_ok hbanner] at hbelow
    exact ⟨table, middle, hvalid, htable, rfl, hbelow, hsummary, hafter⟩

/-- What a run that ends well has left, where its walk came to some reports. -/
structure Logged (config : Config) (table : RuleTable) (entries : List Scanned)
    (log : List (Path × String)) (files : Files) (summary : Summary) (after : RunState) :
    Prop where
  paths : log.map Prod.fst = entries.filterMap Scanned.file?
  series : Files.Series table log files after.files
  counts : summary =
    counted ⟨0, 0, 0⟩ table log (entries.filterMap Scanned.skipped?).length
  output : after.output.written = bytesOf
    (banner config table ⟨false⟩ ++ linesOf table log ++ footer summary ⟨false⟩)

theorem exists_logged {files : Files} {limit : Option Nat} {middle : RunState}
    {entries : List Scanned}
    (hentries : patchBelow scanner table ⟨false⟩ depth visit
        (printed (start files limit) (banner config table ⟨false⟩)) =
      entries.forM (handle table ⟨false⟩)
        (printed (start files limit) (banner config table ⟨false⟩)))
    (hbelow : patchBelow scanner table ⟨false⟩ depth visit
      (printed (start files limit) (banner config table ⟨false⟩)) = .ok () middle) :
    ∃ log, Logged config table entries log files middle.summary
      (printed middle (footer middle.summary ⟨false⟩)) := by
  obtain ⟨log, hdone⟩ := forM_handle_ok (hentries ▸ hbelow)
  refine ⟨log, hdone.paths, hdone.series, hdone.summary, ?_⟩
  calc
    (printed middle (footer middle.summary ⟨false⟩)).output.written =
        middle.output.written ++ bytesOf (footer middle.summary ⟨false⟩) := rfl
    _ = bytesOf (banner config table ⟨false⟩) ++ bytesOf (linesOf table log) ++
        bytesOf (footer middle.summary ⟨false⟩) := by
      rw [hdone.output]
      rfl
    _ = bytesOf (banner config table ⟨false⟩ ++ linesOf table log ++
        footer middle.summary ⟨false⟩) := by
      rw [bytesOf_append, bytesOf_append]

/-- What is left of a run that passes its checks. -/
theorem run_checked (hvalid : config.validate = .ok ())
    (hcompile : RuleTable.compile config.rules = .ok table)
    (hroot : state.files.isDirectory config.root = true) :
    run config options state =
      ((banner config table options).forM print >>= fun _ =>
        patchBelow (.ofConfig config) table options Files.pathLimit (.root config.root) >>=
          fun _ => finish options) state := by
  have hget : (get : RunStep RunState) state = .ok state state := rfl
  simp only [run, hvalid, hcompile, run.liftExcept, pure_bind]
  rw [bind_apply, hget]
  simp only [hroot, Bool.not_true, Bool.false_eq_true, if_false]

/-- A run whose configuration is not valid ends at once. -/
theorem run_of_invalid {e : Error} (hvalid : config.validate = .error e) :
    run config options state = .error e state := by
  rw [run, hvalid]
  rfl

/-- A run whose rules cannot be compiled ends at once. -/
theorem run_of_uncompiled {e : Error} (hvalid : config.validate = .ok ())
    (hcompile : RuleTable.compile config.rules = .error e) :
    run config options state = .error e state := by
  rw [run, hvalid, hcompile]
  rfl

/-- A run whose root is no directory ends before it has done anything. -/
theorem run_of_no_directory (hvalid : config.validate = .ok ())
    (hcompile : RuleTable.compile config.rules = .ok table) {state : RunState}
    (hroot : state.files.isDirectory config.root = false) :
    run config options state = .error (.rootNotDirectory config.root) state := by
  have hget : (get : RunStep RunState) state = .ok state state := rfl
  simp only [run, hvalid, hcompile, run.liftExcept, pure_bind]
  rw [bind_apply, hget]
  simp only [hroot]
  rfl

/-- A run that nothing stops before its walk, nor its walk, ends well where the output
has no limit. -/
theorem run_of_patchBelow {middle : RunState} (hvalid : config.validate = .ok ())
    (hcompile : RuleTable.compile config.rules = .ok table)
    (hroot : state.files.isDirectory config.root = true)
    (hbefore : state.output.limit = none)
    (hbelow : patchBelow (.ofConfig config) table options Files.pathLimit (.root config.root)
      (printed state (banner config table options)) = .ok () middle)
    (hafter : middle.output.limit = none) :
    run config options state =
      .ok middle.summary (printed middle (footer middle.summary options)) := by
  rw [run_checked hvalid hcompile hroot, bind_apply, forM_print_unlimited hbefore]
  simp only
  rw [bind_apply, hbelow]
  exact finish_unlimited hafter

/-- A run whose walk comes to one file and patches it. -/
theorem exists_run_of_single {files last : Files} {path : Path} {outcome : Patched}
    (hvalid : config.validate = .ok ())
    (hcompile : RuleTable.compile config.rules = .ok table)
    (hroot : files.isDirectory config.root = true)
    (hbelow : ∀ state, state.files = files →
      patchBelow (.ofConfig config) table options Files.pathLimit (.root config.root) state =
        handle table options (.file path) state)
    (hpatch : files.patch path table options.dryRun = (.ok outcome, last)) :
    ∃ after, run config options (start files none) =
        .ok (Summary.count ⟨0, 0, 0⟩ outcome) after ∧ after.files = last ∧
      after.output.written = bytesOf (banner config table options ++ [outcome.line path] ++
        footer (Summary.count ⟨0, 0, 0⟩ outcome) options) := by
  have hhandle : handle table options (.file path)
      (printed (start files none) (banner config table options)) = .ok () _ :=
    handle_of_patch rfl hpatch
  have hwalk :=
    (hbelow (printed (start files none) (banner config table options)) rfl).trans hhandle
  refine ⟨_, run_of_patchBelow hvalid hcompile hroot rfl hwalk rfl, rfl, ?_⟩
  rw [bytesOf_append, bytesOf_append]
  rfl

/-! ## Trees without links -/

open Emend.Path (descend)

variable {files : Files} {base : Location} {names : List Name} {name : Name}
  {entries : List (Name × EntryKind)}

/-- The files still have their shape, and the listings below some names are as before. -/
structure Undisturbed (base : Location) (names : List Name) (before after : Files) : Prop where
  shape : before.SameShape after
  children : ∀ rest, after.tree.children (base ++ (names ++ rest)) =
    before.tree.children (base ++ (names ++ rest))

namespace Undisturbed

variable {before middle after : Files}

theorem refl (base : Location) (names : List Name) (files : Files) :
    Undisturbed base names files files := ⟨.refl files, fun _ => rfl⟩

theorem trans (hfirst : Undisturbed base names before middle)
    (hsecond : Undisturbed base names middle after) : Undisturbed base names before after :=
  ⟨hfirst.shape.trans hsecond.shape,
    fun rest => (hsecond.children rest).trans (hfirst.children rest)⟩

theorem of_within {front : List Name} (hwithin : Files.Within (base ++ front) before after)
    (hfront : ¬names <+: front) : Undisturbed base names before after := by
  refine ⟨hwithin.shape, fun rest => hwithin.children _ fun heq => hfront ?_⟩
  rw [List.append_cancel_left_eq] at heq
  exact ⟨rest, heq⟩

theorem below (hbefore : Undisturbed base names before after) (name : Name) :
    Undisturbed base (names ++ [name]) before after := by
  refine ⟨hbefore.shape, fun rest => ?_⟩
  rw [List.append_assoc]
  exact hbefore.children _

end Undisturbed

theorem listing_of_children {before after : Tree} {location : Location}
    (hchildren : after.children location = before.children location) :
    Files.listing after location = Files.listing before location := by
  rw [Files.listing, hchildren, Files.listing]

/-- At an undisturbed place a run finds what a scan found there at the start. -/
theorem expand_undisturbed (hwell : files.tree.WellFormed) (hfree : files.tree.LinkFree)
    (hbase : files.directoryAt? scanner.root = some base)
    (hcomes : Scanner.Comes scanner files names visit) {after : Files}
    (hsame : Undisturbed base names files after) :
    scanner.expand after visit = scanner.expand files visit := by
  rw [Scanner.expand_eq, Scanner.expand_eq, hcomes.kind_eq hbase hsame.shape]
  rcases hvisit : visit.kind files with e | _ | _ | _
  · rfl
  · rfl
  · have hdescends := hcomes.descends_from hwell hbase hvisit
    have hlist : after.list visit.path = files.list visit.path := by
      have hnames := hcomes.proper hwell
      have hchildren := hsame.children []
      rw [List.append_nil] at hchildren
      rw [hcomes.path_eq, Files.list_descend hbase hnames hdescends,
        Files.list_descend (hsame.shape.directoryAt_eq ▸ hbase) hnames
          (hsame.shape.descends hdescends), listing_of_children hchildren]
    simp only [Scanner.look, Scanner.enter, hlist]
  · exact absurd hvisit (hcomes.not_link hwell hfree hbase)

/-- Patching what a scan found under some names leaves every other part of the tree
undisturbed. -/
theorem undisturbed_of_handle (hwell : files.tree.WellFormed) (hfree : files.tree.LinkFree)
    (hbase : files.directoryAt? scanner.root = some base)
    (hshape : files.SameShape state.files)
    (hcomes : Scanner.Comes scanner files (names ++ [name]) visit) {part : List Name}
    (hpart : ¬part <+: names)
    (hok : handle table options (.file visit.path) state = .ok () after) :
    Undisturbed base part state.files after.files := by
  obtain ⟨_, hdescends, -, -⟩ := hcomes.found_from hwell hbase
  have hproper := hcomes.proper hwell
  have hwithin : Files.Within (base ++ names) state.files
      (state.files.patch visit.path table options.dryRun).2 := by
    rw [hcomes.path_eq]
    exact Files.patch_within (hshape.tree.linkFree hfree) (hshape.directoryAt_eq ▸ hbase)
      (fun name hname => hproper name (by simp [hname])) (hproper name (by simp))
      (hshape.descends hdescends)
  obtain ⟨outcome, middle, hpatch, rfl⟩ := handle_file_ok hok
  rw [hpatch] at hwithin
  exact .of_within hwithin hpart

/-- Reports of files that stand under some names, none of them right under other names. -/
def Away (scanner : Scanner) (files : Files) (part : List Name) (reports : List Scanned) :
    Prop :=
  ∀ path, .file path ∈ reports → ∃ names name visit,
    Scanner.Comes scanner files (names ++ [name]) visit ∧ path = visit.path ∧ ¬part <+: names

theorem undisturbed_of_forM (hwell : files.tree.WellFormed) (hfree : files.tree.LinkFree)
    (hbase : files.directoryAt? scanner.root = some base)
    (hshape : files.SameShape state.files) {part : List Name} {reports : List Scanned}
    (haway : Away scanner files part reports)
    (hok : reports.forM (handle table options) state = .ok () after) :
    Undisturbed base part state.files after.files := by
  induction reports generalizing state with
  | nil =>
    cases hok
    exact .refl _ _ _
  | cons report reports ih =>
    rw [forM_cons_apply] at hok
    cases hreport : handle table options report state with
    | error e middle =>
      rw [hreport] at hok
      cases hok
    | ok _ middle =>
      rw [hreport] at hok
      have hfirst : Undisturbed base part state.files middle.files := by
        cases report with
        | skipped place reason =>
          cases hreport
          exact .refl _ _ _
        | file path =>
          obtain ⟨names, name, visit, hcomes, rfl, hpart⟩ := haway path (by simp)
          exact undisturbed_of_handle hwell hfree hbase hshape hcomes hpart hreport
      exact hfirst.trans (ih (hshape.trans hfirst.shape)
        (fun path hpath => haway path (by simp [hpath])) hok)

/-- What a scan reports below one name stands under no other. -/
theorem away_of_report {other : Name}
    (hcomes : Scanner.Comes scanner files (names ++ [name]) visit) (hne : other ≠ name) :
    Away scanner files (names ++ [other]) (scanner.report files depth visit) := by
  intro path hpath
  obtain ⟨rest, place, hplace, hfound⟩ := hcomes.of_report hpath
  have hsame : path = place.path := by
    simpa [Scanned.path?] using Scanner.path_of_found hfound
  rcases List.eq_nil_or_concat' rest with rfl | ⟨front, last, rfl⟩
  · rw [List.append_nil] at hplace
    exact ⟨names, name, place, hplace, hsame, fun hprefix =>
      Scanner.ne_concat_of_part hprefix rfl⟩
  · refine ⟨names ++ [name] ++ front, last, place, by simpa using hplace, hsame,
      fun hprefix => hne ?_⟩
    rw [List.append_assoc, List.prefix_append_right_inj] at hprefix
    simpa using hprefix

/-- Walking while patching goes through the directories in a listing one by one.  Each is
undisturbed when its turn comes, since the ones before it stand under other names. -/
theorem forM_patchBelow (hwell : files.tree.WellFormed) (hfree : files.tree.LinkFree)
    (hbase : files.directoryAt? scanner.root = some base)
    (hstep : ∀ {names visit state}, Scanner.Comes scanner files names visit →
      Undisturbed base names files state.files →
      patchBelow scanner table options depth visit state =
        (scanner.report files depth visit).forM (handle table options) state)
    (place : Name → EntryKind → Visit) (hincreasing : entries.Pairwise fun a b => a.1 < b.1)
    (hplaces : ∀ e ∈ entries, Scanner.Comes scanner files (names ++ [e.1]) (place e.1 e.2))
    (hsame : ∀ e ∈ entries, Undisturbed base (names ++ [e.1]) files state.files) :
    (entries.map fun e => place e.1 e.2).forM (patchBelow scanner table options depth) state =
      ((entries.map fun e => place e.1 e.2).flatMap (scanner.report files depth)).forM
        (handle table options) state := by
  induction entries generalizing state with
  | nil => rfl
  | cons e entries ih =>
    rw [List.pairwise_cons] at hincreasing
    have hfirst := hstep (hplaces e (by simp)) (hsame e (by simp))
    rw [List.map_cons, forM_cons_apply, hfirst, List.flatMap_cons, forM_append_apply]
    cases hresult : (scanner.report files depth (place e.1 e.2)).forM
        (handle table options) state with
    | error e middle => rfl
    | ok _ middle =>
      refine ih hincreasing.2 (fun other hother => hplaces other (by simp [hother]))
        fun other hother => (hsame other (by simp [hother])).trans ?_
      have hne : other.1 ≠ e.1 := by
        intro heq
        exact List.lt_irrefl _ (heq ▸ hincreasing.1 other hother)
      exact undisturbed_of_forM hwell hfree hbase (hsame e (by simp)).shape
        (away_of_report (hplaces e (by simp)) hne) hresult

/-- Without links, a walk that patches as it goes deals with what a scan reports. -/
theorem patchBelow_eq_report (hwell : files.tree.WellFormed) (hfree : files.tree.LinkFree)
    (hbase : files.directoryAt? scanner.root = some base)
    (hcomes : Scanner.Comes scanner files names visit)
    (hsame : Undisturbed base names files state.files) :
    patchBelow scanner table options depth visit state =
      (scanner.report files depth visit).forM (handle table options) state := by
  induction depth generalizing names visit state with
  | zero => rfl
  | succ depth ih =>
    rw [patchBelow_succ, expand_undisturbed hwell hfree hbase hcomes hsame,
      Scanner.report_succ, forM_append_apply]
    rcases Scanner.expand_cases scanner files visit with
      ⟨found, hfound⟩ | hnone | ⟨entries, hkind, hlist, hbelow⟩
    · rw [hfound]
      rfl
    · rw [hnone]
      rfl
    · rw [hbelow]
      obtain ⟨location, -, hentries⟩ := Files.list_eq_ok_iff.mp hlist
      exact forM_patchBelow hwell hfree hbase ih
        (fun name kind => .entry (visit.path.join name) kind)
        (hentries ▸ Files.listing_pairwise hwell location)
        (fun e hentry => hcomes.child hkind hlist hentry) fun e _ => hsame.below e.1

/-- In a tree without links, walking while patching is scanning first and patching then. -/
theorem patchBelow_eq_scan (hwell : state.files.tree.WellFormed)
    (hfree : state.files.tree.LinkFree)
    (hroot : state.files.isDirectory scanner.root = true) :
    patchBelow scanner table options Files.pathLimit (.root scanner.root) state =
      (scanner.scan state.files).forM (handle table options) state := by
  obtain ⟨base, hbase⟩ := Files.isDirectory_iff.mp hroot
  exact patchBelow_eq_report hwell hfree hbase .root (.refl base [] state.files)

end Emend.Run

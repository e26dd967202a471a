import Emend.Proofs.Patch.Parallel
import Emend.Proofs.Run.Effect
import Emend.Proofs.Run.Stages
import Emend.Proofs.Scan.Arrivals

/-!
# Files that are not selected

A run reads the files that its scan finds, and no others.  Where links lead backups onto
other files, these are written without being read, and what is made on the way is written
from what has been read.  Two trees that differ only in files to which nothing leads that
a scan finds are therefore told apart by nothing that a run returns, prints or writes.
-/

namespace Emend

variable {scanner : Scanner} {table : RuleTable} {options : Options} {config : Config}
  {first second : Files} {visit : Visit} {path : Path} {base : Location} {depth : Nat}

namespace Files

/-- Places look the same to a scan of files that differ only in what they hold. -/
theorem SameOutline.expand_eq (hsame : first.SameOutline second)
    (hwell : first.tree.WellFormed) (hwell' : second.tree.WellFormed) (scanner : Scanner)
    (visit : Visit) : scanner.expand first visit = scanner.expand second visit := by
  have hkind : visit.kind first = visit.kind second := by
    cases visit with
    | root path => simp only [Visit.kind, hsame.kind_eq, hsame.linkKind_eq]
    | entry path kind => rfl
  rw [Scanner.expand_eq, Scanner.expand_eq, hkind]
  rcases visit.kind second with e | _ | _ | _
  · rfl
  · rfl
  · simp only [Scanner.look, Scanner.enter, hsame.list_eq hwell hwell']
  · simp only [Scanner.look, hsame.isFile_eq]

/-- No path that a scan finds leads to where the files differ. -/
def Unselected (scanner : Scanner) (files other : Files) : Prop :=
  ∀ location, files.tree.entry? location ≠ other.tree.entry? location →
    ∀ path, .file path ∈ scanner.scan files → files.fileAt? path ≠ some location

/-- What a scan finds in the end is held alike, if nothing selected is different. -/
theorem Unselected.alike {files other : Files} (hunselected : Unselected scanner files other)
    (houtline : files.SameOutline other)
    (hfound : .file path ∈ scanner.scan files ∨ files.Vacant path) : Alike files other path := by
  intro location hslot
  by_contra hne
  rcases isOpen_of_slot hslot with hnone | ⟨content, hentry⟩
  · exact hne (hnone.trans (houtline.tree.none hnone).symm)
  · rcases hfound with hscan | hvacant
    · exact hunselected location hne path hscan
        (fileAt_eq_some_iff.mpr ⟨hslot, content, hentry⟩)
    · rw [hvacant location hslot] at hentry
      cases hentry

end Files

namespace Run

variable {α β : Type} {files other : Files} {state later : RunState}

/-! ## Steps side by side -/

/-- States that differ in their files alone, and there as two trees side by side do. -/
def Beside (files other : Files) (state later : RunState) : Prop :=
  ∃ now, later = { state with files := now } ∧ Files.Parallel files other state.files now

/-- Results that are the same, with states side by side. -/
inductive InStep (files other : Files) :
    EStateM.Result Error RunState α → EStateM.Result Error RunState α → Prop
  | ok (a : α) {state later : RunState} (hbeside : Beside files other state later) :
      InStep files other (.ok a state) (.ok a later)
  | error (e : Error) {state later : RunState} (hbeside : Beside files other state later) :
      InStep files other (.error e state) (.error e later)

def KeepsStep (files other : Files) (step : RunStep α) : Prop :=
  ∀ state later, Beside files other state later → InStep files other (step state) (step later)

namespace KeepsStep

theorem pure (a : α) : KeepsStep files other (pure a : RunStep α) :=
  fun _ _ hbeside => .ok a hbeside

theorem bind {step : RunStep α} {next : α → RunStep β} (hstep : KeepsStep files other step)
    (hnext : ∀ a, KeepsStep files other (next a)) : KeepsStep files other (step >>= next) := by
  intro state later hbeside
  have hresult := hstep state later hbeside
  rw [bind_apply, bind_apply]
  generalize step state = result at hresult ⊢
  generalize step later = result' at hresult ⊢
  cases hresult with
  | ok a hmiddle => exact hnext a _ _ hmiddle
  | error e hmiddle => exact .error e hmiddle

theorem forM {step : α → RunStep Unit} {as : List α}
    (hstep : ∀ a ∈ as, KeepsStep files other (step a)) :
    KeepsStep files other (as.forM step) := by
  induction as with
  | nil => exact pure ()
  | cons a as ih =>
    exact bind (hstep a (by simp)) fun _ => ih fun b hb => hstep b (by simp [hb])

theorem print (line : String) : KeepsStep files other (print line) := by
  rintro state _ ⟨now, rfl, hparallel⟩
  unfold Run.print
  rcases state.output.take (Utf8.encode (line ++ "\n")) with ⟨_ | _, output⟩
  · exact .error _ ⟨now, rfl, hparallel⟩
  · exact .ok _ ⟨now, rfl, hparallel⟩

theorem handle_skipped (place : Option Path) (reason : String) :
    KeepsStep files other (handle table options (.skipped place reason)) := by
  rintro state _ ⟨now, rfl, hparallel⟩
  rw [Run.handle_skipped, Run.handle_skipped]
  exact .ok () ⟨now, rfl, hparallel⟩

theorem patchFile (halike : Files.Alike files other path) :
    KeepsStep files other (patchFile table options path) := by
  rintro state _ ⟨now, rfl, hparallel⟩
  obtain ⟨houtcome, hafter⟩ := hparallel.patch halike table options.dryRun
  unfold Run.patchFile
  rcases hfirst : state.files.patch path table options.dryRun with ⟨outcome, after⟩
  rcases hsecond : now.patch path table options.dryRun with ⟨outcome', after'⟩
  rw [hfirst, hsecond] at houtcome hafter
  obtain rfl : outcome = outcome' := houtcome
  cases outcome with
  | error e => exact .error e ⟨after', rfl, hafter⟩
  | ok outcome => exact .ok outcome ⟨after', rfl, hafter⟩

/-- Dealing with a report keeps states side by side, if the file is alike in both. -/
theorem handle {found : Scanned}
    (halike : ∀ path, found = .file path → Files.Alike files other path) :
    KeepsStep files other (handle table options found) := by
  cases found with
  | skipped place reason => exact handle_skipped place reason
  | file path => exact (patchFile (halike path rfl)).bind fun outcome => print (outcome.line path)

theorem finish (options : Options) : KeepsStep files other (finish options) := by
  rintro state _ ⟨now, rfl, hparallel⟩
  rw [finish_apply, finish_apply]
  exact (forM fun line _ => print line).bind (fun _ => pure state.summary) _ _
    ⟨now, rfl, hparallel⟩

/-- Walking and patching keeps step: what the walk finds was selected from the start, or
has been made from what was. -/
theorem patchBelow (hwell : files.tree.WellFormed) (houtline : files.SameOutline other)
    (hunselected : Files.Unselected scanner files other)
    (hbase : files.directoryAt? scanner.root = some base)
    (harrives : Scanner.Arrives scanner files visit) :
    KeepsStep files other (patchBelow scanner table options depth visit) := by
  -- The induction is on the depth.  Both trees have grown from the start, so that every
  -- place is one that the scan comes to then, or a new file.
  induction depth generalizing visit with
  | zero => exact pure ()
  | succ depth ih =>
    rintro state _ ⟨now, rfl, hparallel⟩
    have hexpand := hparallel.outline.expand_eq hparallel.well.tree hparallel.well'.tree
      scanner visit
    have hfound : KeepsStep files other
        ((scanner.expand state.files visit).1.forM (Run.handle table options)) := by
      refine forM fun found hmem => handle ?_
      rintro path rfl
      exact hunselected.alike houtline (harrives.found hparallel.grows hwell hbase hmem)
    have hbelow : KeepsStep files other ((scanner.expand state.files visit).2.forM
        (Run.patchBelow scanner table options depth)) :=
      forM fun visit hmem =>
        ih (harrives.below hparallel.grows hwell hparallel.well.tree hbase hmem)
    rw [patchBelow_eq_bind, patchBelow_eq_bind, ← hexpand]
    exact (hfound.bind fun _ => hbelow) state _ ⟨now, rfl, hparallel⟩

end KeepsStep

/-! ## The whole run -/

def answerOf : EStateM.Result Error RunState α → Except Error α
  | .ok a _ => .ok a
  | .error e _ => .error e

/-- The outcomes of two runs on trees that differ, where nothing tells them apart. -/
structure Indistinct (files other : Files)
    (result result' : EStateM.Result Error RunState Summary) : Prop where
  answer : answerOf result' = answerOf result
  output : (stateOf result').output = (stateOf result).output
  warnings : (stateOf result').warnings = (stateOf result).warnings
  /-- What was alike is alike. -/
  alike : ∀ location, files.tree.entry? location = other.tree.entry? location →
    (stateOf result).files.tree.entry? location = (stateOf result').files.tree.entry? location
  /-- What was different has been written alike, or has not been written. -/
  different : ∀ location, files.tree.entry? location ≠ other.tree.entry? location →
    (stateOf result).files.tree.entry? location =
        (stateOf result').files.tree.entry? location ∨
      (stateOf result).files.tree.entry? location = files.tree.entry? location ∧
        (stateOf result').files.tree.entry? location = other.tree.entry? location

theorem InStep.indistinct {result result' : EStateM.Result Error RunState Summary}
    (hstep : InStep files other result result') : Indistinct files other result result' := by
  have hstate {state later : RunState} (hbeside : Beside files other state later) :
      later.output = state.output ∧ later.warnings = state.warnings ∧
        ∀ location, state.files.tree.entry? location = later.files.tree.entry? location ∨
          state.files.tree.entry? location = files.tree.entry? location ∧
            later.files.tree.entry? location = other.tree.entry? location := by
    obtain ⟨now, rfl, hparallel⟩ := hbeside
    exact ⟨rfl, rfl, hparallel.entry⟩
  cases hstep with
  | ok summary hbeside | error e hbeside =>
    obtain ⟨houtput, hwarnings, hentry⟩ := hstate hbeside
    refine ⟨rfl, houtput, hwarnings, fun location hsame => ?_, fun location _ => hentry location⟩
    rcases hentry location with hequal | ⟨hfirst, hsecond⟩
    · exact hequal
    · exact hfirst.trans (hsame.trans hsecond.symm)

/-- Files to which nothing leads that the scan finds are not read: two trees that differ
in such files alone give runs that nothing tells apart. -/
theorem run_unselected (hwell : files.WellFormed) (hwell' : other.WellFormed)
    (houtline : files.SameOutline other)
    (hunselected : Files.Unselected (.ofConfig config) files other) (options : Options)
    (limit : Option Nat) :
    Indistinct files other (run config options (start files limit))
      (run config options (start other limit)) := by
  have hparallel := Files.Parallel.refl hwell hwell' houtline
  have hbeside : Beside files other (start files limit) (start other limit) :=
    ⟨other, rfl, hparallel⟩
  apply InStep.indistinct
  cases hvalid : config.validate with
  | error e =>
    rw [run_of_invalid hvalid, run_of_invalid hvalid]
    exact .error e hbeside
  | ok =>
    cases hcompile : RuleTable.compile config.rules with
    | error e =>
      rw [run_of_uncompiled hvalid hcompile, run_of_uncompiled hvalid hcompile]
      exact .error e hbeside
    | ok table =>
      have hroots := houtline.isDirectory_eq config.root
      cases hroot : files.isDirectory config.root with
      | false =>
        have hfirst : run config options (start files limit) = _ :=
          run_of_no_directory hvalid hcompile hroot
        have hsecond : run config options (start other limit) = _ :=
          run_of_no_directory hvalid hcompile (hroots ▸ hroot)
        rw [hfirst, hsecond]
        exact .error _ hbeside
      | true =>
        have hfirst : run config options (start files limit) = _ :=
          run_checked hvalid hcompile hroot
        have hsecond : run config options (start other limit) = _ :=
          run_checked hvalid hcompile (hroots ▸ hroot)
        obtain ⟨base, hbase⟩ := Files.isDirectory_iff.mp hroot
        rw [hfirst, hsecond]
        apply KeepsStep.bind (.forM fun line _ => .print line) (fun _ => ?_) _ _ hbeside
        exact (KeepsStep.patchBelow hwell.tree houtline hunselected hbase
          (.start _ files)).bind fun _ => .finish options

/-- A tree where the backup of a file leads through a link onto a file that no extension
selects. -/
def noteTree (content : Bytes) : Files :=
  let name := Path.ofString
  ⟨⟨[([name "s"], .directory), ([name "s", name "A.hx"], .file (Utf8.encode "a")),
    ([name "s", name "A.hx.backup"], .link (name "n")),
    ([name "s", name "n"], .file content)]⟩, [], none⟩

theorem scan_noteTree (content : Bytes) :
    (Scanner.ofConfig letterConfig).scan (noteTree content) =
      [.file (Path.ofString "s/A.hx")] := by
  let scanner := Scanner.ofConfig letterConfig
  have hroot : scanner.expand (noteTree content) (.root letterConfig.root) =
      ([], [.entry (Path.ofString "s/A.hx") .file, .entry (Path.ofString "s/A.hx.backup") .link,
        .entry (Path.ofString "s/n") .file]) := by cbv
  have hfile : scanner.wants (Path.ofString "s/A.hx") = true := by cbv
  have hbackup : scanner.wants (Path.ofString "s/A.hx.backup") = false := by cbv
  have hother : scanner.wants (Path.ofString "s/n") = false := by cbv
  change scanner.report (noteTree content) (4094 + 1 + 1) (.root letterConfig.root) = _
  rw [Scanner.report_succ, hroot]
  simp [Scanner.report_succ, Scanner.expand, Scanner.look, hfile, hbackup, hother]

theorem run_unselected_note :
    (noteTree [0]).WellFormed ∧ (noteTree [1]).WellFormed ∧
      (noteTree [0]).SameOutline (noteTree [1]) ∧
      Files.Unselected (.ofConfig letterConfig) (noteTree [0]) (noteTree [1]) ∧
      Indistinct (noteTree [0]) (noteTree [1])
        (run letterConfig ⟨false⟩ (start (noteTree [0]) none))
        (run letterConfig ⟨false⟩ (start (noteTree [1]) none)) := by
  have hwell : (noteTree [0]).WellFormed := ⟨by decide +kernel, by decide +kernel⟩
  have hwell' : (noteTree [1]).WellFormed := ⟨by decide +kernel, by decide +kernel⟩
  have houtline : (noteTree [0]).SameOutline (noteTree [1]) :=
    ⟨rfl, rfl, .of_entries rfl⟩
  have hunselected : Files.Unselected (.ofConfig letterConfig) (noteTree [0])
      (noteTree [1]) := by
    have hfile : (noteTree [0]).fileAt? (Path.ofString "s/A.hx") =
        some [Path.ofString "s", Path.ofString "A.hx"] := by cbv
    intro location hne path hpath hlocation
    rw [scan_noteTree, List.mem_singleton, Scanned.file.injEq] at hpath
    rw [hpath, hfile, Option.some.injEq] at hlocation
    subst hlocation
    exact hne (by cbv)
  exact ⟨hwell, hwell', houtline, hunselected,
    run_unselected hwell hwell' houtline hunselected ⟨false⟩ none⟩

end Run

end Emend

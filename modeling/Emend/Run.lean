import Emend.Patch
import Emend.Scan

/-!
# Runs

A run patches what a scan finds while it finds it, and reports every file on its
output.  The first failure ends it, whether of a file or of the output itself, and
what has been done by then stays done.
-/

namespace Emend

structure Options where
  dryRun : Bool

/-- Where report lines go.  After `limit` bytes nothing more is taken. -/
structure Output where
  written : Bytes
  limit : Option Nat

/-- The counts of a run. -/
structure Summary where
  fixed : Nat
  unchanged : Nat
  skipped : Nat
  deriving DecidableEq

/-- What a run works on and leaves behind, however it ends. -/
structure RunState where
  files : Files
  output : Output
  warnings : List String
  summary : Summary

/-- A step of a run: it changes the state, and may fail. -/
abbrev RunStep := EStateM Error RunState

namespace Output

/-- Takes as much of a byte string as there is room for. -/
def take (output : Output) (bytes : Bytes) : Bool × Output :=
  match output.limit with
  | none => (true, { output with written := output.written ++ bytes })
  | some limit =>
    let room := limit - output.written.length
    (bytes.length ≤ room, { output with written := output.written ++ bytes.take room })

end Output

namespace Run

def start (files : Files) (limit : Option Nat) : RunState :=
  ⟨files, ⟨[], limit⟩, [], ⟨0, 0, 0⟩⟩

/-- Prints a line. -/
def print (line : String) : RunStep Unit := fun state =>
  let (complete, output) := state.output.take (Utf8.encode (line ++ "\n"))
  if complete then .ok () { state with output := output }
  else .error .outputFailed { state with output := output }

def warn (line : String) : RunStep Unit :=
  modify fun state => { state with warnings := state.warnings ++ [line] }

def skippedLine (path : Option Path) (reason : String) : String :=
  match path with
  | some path => "warning: skipping " ++ path.display ++ ": " ++ reason
  | none => "warning: skipping entry: " ++ reason

def Summary.count (summary : Summary) : Patched → Summary
  | .fixed => { summary with fixed := summary.fixed + 1 }
  | .unchanged => { summary with unchanged := summary.unchanged + 1 }

/-- Patches a file and counts it, without printing. -/
def patchFile (table : RuleTable) (options : Options) (path : Path) : RunStep Patched :=
  fun state =>
    match state.files.patch path table options.dryRun with
    | (.error e, files) => .error e { state with files := files }
    | (.ok outcome, files) =>
      .ok outcome { state with files := files, summary := Summary.count state.summary outcome }

/-- Deals with one thing that a scan reports. -/
def handle (table : RuleTable) (options : Options) : Scanned → RunStep Unit
  | .file path => do
    let outcome ← patchFile table options path
    print (outcome.line path)
  | .skipped path reason => do
    modify fun state =>
      { state with summary := { state.summary with skipped := state.summary.skipped + 1 } }
    warn (skippedLine path reason)

def banner (config : Config) (table : RuleTable) (options : Options) : List String :=
  let extensions := config.extensions.map fun e => "*." ++ String.ofList (bareExtension e)
  ["=== repatch ==="] ++
    (if options.dryRun then ["Dry run: no files will be written."] else []) ++
    ["Scanning '" ++ config.root.display ++ "/' for " ++ toString table.length ++
      " rule(s) on " ++ String.intercalate ", " extensions ++ "...\n"]

def footer (summary : Summary) (options : Options) : List String :=
  ["\nDone! " ++ toString summary.fixed ++ " file(s) fixed, " ++ toString summary.unchanged ++
    " unchanged."] ++
    (if 0 < summary.skipped then
      [toString summary.skipped ++ " unreadable entries were skipped."] else []) ++
    [if options.dryRun then "Dry run: no files were written."
      else "Backup copies are saved as *.backup"]

/-- Prints the footer of what has been counted. -/
def finish (options : Options) : RunStep Summary := do
  let summary := (← get).summary
  (footer summary options).forM print
  return summary

/-- Deals with a list of reports in order. -/
def patchEntries (table : RuleTable) (options : Options) (entries : List Scanned) :
    RunStep Summary := do
  entries.forM (handle table options)
  finish options

/-- Deals with what a scan reports at a place and below it, down to a depth, while the
scan goes on.  A directory is listed when the scan comes to it. -/
def patchBelow (scanner : Scanner) (table : RuleTable) (options : Options) :
    Nat → Visit → RunStep Unit
  | 0, _ => pure ()
  | depth + 1, visit => do
    let (found, below) := scanner.expand (← get).files visit
    found.forM (handle table options)
    below.forM (patchBelow scanner table options depth)

/-- Patches every wanted file below the root.  The patterns are compiled before the
root is looked at. -/
def run (config : Config) (options : Options) : RunStep Summary := do
  liftExcept config.validate
  let table ← liftExcept (RuleTable.compile config.rules)
  if !(← get).files.isDirectory config.root then
    throw (.rootNotDirectory config.root)
  (banner config table options).forM print
  patchBelow (.ofConfig config) table options Files.pathLimit (.root config.root)
  finish options
where
  liftExcept {α : Type} : Except Error α → RunStep α
    | .ok a => pure a
    | .error e => throw e

end Run

end Emend

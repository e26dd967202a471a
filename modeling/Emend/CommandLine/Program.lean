import Emend.CommandLine.Reading
import Emend.CommandLine.Report
import Emend.Config.Load
import Emend.Run

/-!
# The program

The program reads its command line, loads the configuration and does what it is asked
for.  It ends with a code: 0 if all went well, 1 if something failed, and 2 if the
command line was not understood.
-/

namespace Emend.CommandLine

/-- What a program leaves behind when it ends. -/
structure Ending where
  code : Nat
  output : Bytes
  errors : String
  files : Files

namespace Ending

def success (files : Files) (text : String) : Ending := ⟨0, Utf8.encode text, "", files⟩

def failure (files : Files) (text : String) : Ending := ⟨1, [], text, files⟩

end Ending

def textOfLines (lines : List String) : String := String.join (lines.map (· ++ "\n"))

/-- The path of a location from the root. -/
def pathOfLocation (location : Location) : Path :=
  if location = [] then [Path.slash] else location.flatMap (Path.slash :: ·)

/-- The configuration in effect: what is loaded, with the root and the extensions that
the command line gives. -/
def effectiveConfig (files : Files) (values : Values) : Except Error LoadedConfig := do
  let loaded ← Config.load files values.config (pathOfLocation files.here)
  let config := { loaded.config with
    root := values.root.getD loaded.config.root
    extensions := if values.extensions = [] then loaded.config.extensions else values.extensions }
  config.validate
  return { loaded with config := config }

/-- Writes the local configuration file.  One that is there is kept, unless the command
line insists. -/
def writeInitialConfig (files : Files) (force : Bool) : Ending :=
  let name := Config.fileName.display
  if files.isThere Config.fileName && !force then
    .failure files ("error: " ++ name ++ " already exists. Use --force to overwrite.\n")
  else
    match files.write Config.fileName (Utf8.encode Config.initialFile) with
    | (.ok (), files) => .success files ("Created " ++ name ++ "\n")
    | (.error e, files) =>
      .failure files
        ("error: Failed to write " ++ name ++ "\n\nCaused by:\n    " ++ e.message ++ "\n")

def ruleLines (number : Nat) : List Rule → List String
  | [] => []
  | rule :: rest =>
    ["  Rule " ++ toString number ++ ":", "    pattern: " ++ rule.pattern,
      "    replacement: " ++ rule.replacement, ""] ++ ruleLines (number + 1) rest

def configLines (loaded : LoadedConfig) : List String :=
  ["# Source: " ++ loaded.source.display, "root: " ++ loaded.config.root.display,
    "extensions: " ++ String.intercalate ", " loaded.config.extensions,
    "rules: " ++ toString loaded.config.rules.length, ""] ++ ruleLines 1 loaded.config.rules

def showConfig (files : Files) (values : Values) : Ending :=
  match effectiveConfig files values with
  | .ok loaded => .success files (textOfLines (configLines loaded))
  | .error e => .failure files (failureReport "Failed to load configuration" e)

/-- Checks the configuration, the patterns of its rules included. -/
def validateConfig (files : Files) (values : Values) : Ending :=
  let checked : Except Error (LoadedConfig × RuleTable) := do
    let loaded ← effectiveConfig files values
    return (loaded, ← RuleTable.compile loaded.config.rules)
  match checked with
  | .ok (loaded, table) =>
    .success files
      ("Configuration is valid: " ++ loaded.source.display ++ " (" ++ toString table.length ++
        " rules)\n")
  | .error e => .failure files ("Configuration error: " ++ e.message ++ "\n")

def patch (files : Files) (values : Values) : Ending :=
  match effectiveConfig files values with
  | .error e => .failure files (failureReport "Failed to load configuration" e)
  | .ok loaded =>
    match Run.run loaded.config ⟨values.dryRun⟩ (Run.start files none) with
    | .ok _ state => ⟨0, state.output.written, textOfLines state.warnings, state.files⟩
    | .error e state =>
      let context := "Patch run failed under " ++ loaded.config.root.display
      ⟨1, state.output.written, textOfLines state.warnings ++ failureReport context e,
        state.files⟩

/-- Carries out what a command line asks for.  Writing the local configuration file
comes before everything else. -/
def carryOut (files : Files) (invocation : Invocation) : Ending :=
  let values := invocation.values
  if values.init then writeInitialConfig files values.force
  else
    match invocation.task with
    | .patch => patch files values
    | .showConfig => showConfig files values
    | .validateConfig => validateConfig files values

def version : String := "repatch 0.1.0"

/-- Runs the program with the words of a command line. -/
def program (files : Files) (words : List Bytes) : Ending :=
  match Invocation.ofWords words with
  | .ok invocation => carryOut files invocation
  | .error (.help page) => .success files page.text
  | .error .version => .success files (version ++ "\n")
  | .error (.helpUnasked page) => ⟨2, [], page.text, files⟩
  | .error (.fault fault) => ⟨2, [], "error: " ++ fault.message ++ "\n", files⟩

end Emend.CommandLine

import Emend.Config
import Emend.OsError

/-!
# Errors

Everything that can end a run, with the text that is shown for it and the text of
the cause behind it, if that is shown too.
-/

namespace Emend

/-- Why a configuration file could not be read as text. -/
inductive ReadFault where
  | os (error : OsError)
  | notText
  deriving DecidableEq

inductive Error where
  | configUnreadable (path : Path) (cause : ReadFault)
  | configUnparsable (path : Path)
  | configInvalid (fault : ConfigFault)
  | patternInvalid (pattern : String) (cause : Pattern.PatternError)
  | rootNotDirectory (path : Path)
  | fileUnreadable (path : Path) (cause : OsError)
  | fileNotText (path : Path) (fault : Utf8.Fault)
  | backupFailed (path : Path) (cause : OsError)
  | overwriteFailed (path : Path) (cause : OsError)
  | outputFailed
  deriving DecidableEq

def ReadFault.message : ReadFault → String
  | os error => error.message
  | notText => "stream did not contain valid UTF-8"

def Utf8.Fault.message (fault : Utf8.Fault) : String :=
  match fault.length with
  | some length =>
    "invalid utf-8 sequence of " ++ toString length ++ " bytes from index " ++ toString fault.index
  | none => "incomplete utf-8 byte sequence from index " ++ toString fault.index

namespace Error

def message : Error → String
  | configUnreadable path _ => "Failed to read config file: " ++ path.display
  | configUnparsable path => "Failed to parse config file: " ++ path.display
  | configInvalid fault => "Invalid configuration: " ++ fault.reason
  | patternInvalid pattern _ => "Invalid regex pattern in rule: " ++ pattern
  | rootNotDirectory path => "Scan root is not a directory: " ++ path.display
  | fileUnreadable path _ => "Failed to read file: " ++ path.display
  | fileNotText path _ => "File is not valid UTF-8: " ++ path.display
  | backupFailed path _ => "Failed to write backup file: " ++ path.display
  | overwriteFailed path _ => "Failed to write patched file: " ++ path.display
  | outputFailed => "Failed to write status output"

/-- The text of the cause, for the errors whose cause has a text of its own here.
The explanations of a document or pattern that cannot be read are not kept. -/
def cause? : Error → Option String
  | configUnreadable _ cause => some cause.message
  | fileUnreadable _ cause => some cause.message
  | fileNotText _ fault => some fault.message
  | backupFailed _ cause => some cause.message
  | overwriteFailed _ cause => some cause.message
  | outputFailed => some "output limit reached"
  | _ => none

end Error

/-- Compiles every rule, up to the first whose pattern is refused. -/
def RuleTable.compile (rules : List Rule) : Except Error RuleTable :=
  rules.mapM fun rule =>
    match CompiledRule.ofRule rule with
    | .ok compiled => .ok compiled
    | .error cause => .error (.patternInvalid rule.pattern cause)

/-- A configuration that has no fault. -/
def Config.validate (config : Config) : Except Error Unit :=
  match config.fault? with
  | some fault => .error (.configInvalid fault)
  | none => .ok ()

end Emend

import Emend.Path
import Emend.Rule

/-!
# Configuration

A configuration says where to look for files, which file names count and what to
replace.  It is accepted if it names an extension, every extension has more than
dots, and every pattern has a sign.
-/

namespace Emend

structure Config where
  root : Path
  extensions : List String
  rules : List Rule
  deriving DecidableEq

/-- The extension without the dots before it. -/
def bareExtension (extension : String) : List Char :=
  extension.toList.dropWhile (· = '.')

inductive ConfigFault where
  | noExtension
  | bareDots (extension : String)
  | emptyPattern (number : Nat)
  deriving DecidableEq

/-- An extension in a fault has dots only, so it is quoted as it stands. -/
def ConfigFault.reason : ConfigFault → String
  | noExtension => "extensions must not be empty"
  | bareDots extension => "invalid extension \"" ++ extension ++ "\""
  | emptyPattern number => "rule " ++ toString number ++ " has an empty pattern"

namespace Config

/-- The configuration in effect when nothing is configured. -/
def builtIn : Config := ⟨Path.ofString "source", ["hx"], Rule.builtIn⟩

/-- The first fault of a configuration, extensions before rules. -/
def fault? (config : Config) : Option ConfigFault :=
  if config.extensions = [] then some .noExtension
  else
    match config.extensions.find? fun e => (bareExtension e).isEmpty with
    | some extension => some (.bareDots extension)
    | none =>
      (config.rules.findIdx? fun rule => rule.pattern = "").map fun i => .emptyPattern (i + 1)

/-- The commented file that `--init` writes; read back, it is the built-in
configuration. -/
def initialFile : String := String.intercalate "\n" [
  "# repatch configuration",
  "#",
  "# Rules are applied in order; each rule sees the output of the previous one.",
  "# Patterns use Rust regex syntax. In replacements, $1 or $\x7bname\x7d expand",
  "# capture groups and $$ is a literal dollar sign.",
  "",
  "root = \"source\"",
  "extensions = [\"hx\"]",
  "",
  "[[rules]]",
  "pattern = 'import\\s+flixel\\.animation\\.FlxFrameation\\s*;'",
  "replacement = \"import flixel.graphics.frames.FlxFrame;\"",
  "",
  "[[rules]]",
  "pattern = '\\bFlxFrameation\\b'",
  "replacement = \"FlxFrame\"",
  ""]

end Config

end Emend

/-!
# Commands and their arguments

The program patches files unless a command tells it to show or to check the
configuration.  Some arguments are known to every command and the others only to
patching.
-/

namespace Emend.CommandLine

/-- What a command line may ask for.  The command `config` only leads to two others. -/
inductive Command where
  | patch
  | config
  | showConfig
  | validateConfig
  deriving DecidableEq

/-- The arguments that have a value. -/
inductive Slot where
  | config
  | extension
  | root
  deriving DecidableEq

/-- The options that have none. -/
inductive Switch where
  | init
  | force
  | dryRun
  | help
  | version
  deriving DecidableEq

inductive Argument where
  | slot (slot : Slot)
  | switch (switch : Switch)
  deriving DecidableEq

def Slot.shown : Slot → String
  | config => "--config <FILE>"
  | extension => "--ext <EXT>"
  | root => "[ROOT]"

/-- The name of a switch after two dashes. -/
def Switch.name : Switch → String
  | init => "init"
  | force => "force"
  | dryRun => "dry-run"
  | help => "help"
  | version => "version"

def Switch.shown (switch : Switch) : String := "--" ++ switch.name

namespace Argument

def shown : Argument → String
  | slot s => s.shown
  | switch s => s.shown

/-- The name of an option after two dashes.  The root has no name. -/
def name? : Argument → Option String
  | slot .config => some "config"
  | slot .extension => some "ext"
  | slot .root => none
  | switch s => some s.name

/-- The letter of an option after one dash. -/
def letter? : Argument → Option Char
  | slot .config => some 'c'
  | switch .dryRun => some 'n'
  | switch .help => some 'h'
  | switch .version => some 'V'
  | _ => none

def purpose : Argument → String
  | slot .config => "Config file to use instead of ./.repatch.toml"
  | slot .extension => "File extension to patch (repeatable, overrides config)"
  | slot .root => "Directory to scan (overrides config root)"
  | switch .init => "Create a template .repatch.toml in the current directory"
  | switch .force => "Overwrite existing .repatch.toml when using --init"
  | switch .dryRun => "Report what would change without writing any file"
  | switch .help => "Print help"
  | switch .version => "Print version"

end Argument

namespace Command

/-- The words that lead on from a command, with what they lead to. -/
def children : Command → List (String × Command)
  | patch => [("config", config)]
  | config => [("show", showConfig), ("validate", validateConfig)]
  | showConfig => []
  | validateConfig => []

def child? (command : Command) (word : String) : Option Command :=
  (command.children.find? (·.1 = word)).map (·.2)

/-- Whether words may follow a command that lead to another one, or to its help. -/
def leadsOn (command : Command) : Bool := !command.children.isEmpty

/-- The words that may follow a command. -/
def words (command : Command) : List String :=
  if command.leadsOn then command.children.map (·.1) ++ ["help"] else []

def options : Command → List Argument
  | patch => [.slot .config, .switch .init, .switch .force, .slot .extension, .switch .dryRun,
      .switch .help, .switch .version]
  | _ => [.slot .config, .slot .extension, .switch .help]

def takesRoot (command : Command) : Bool := command = patch

def named? (command : Command) (name : String) : Option Argument :=
  command.options.find? (·.name? = some name)

def lettered? (command : Command) (letter : Char) : Option Argument :=
  command.options.find? (·.letter? = some letter)

end Command

end Emend.CommandLine

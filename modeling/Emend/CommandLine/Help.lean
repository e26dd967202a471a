import Emend.CommandLine.Argument

/-!
# Help

A page of help says what a command is for, how it is written, and in columns what may
be written after it.
-/

namespace Emend.CommandLine

/-- A page of help.  Rows have a label and its purpose. -/
structure HelpPage where
  purpose : String
  usage : String
  commands : List (String × String)
  arguments : List (String × String)
  options : List (String × String)

namespace HelpPage

/-- Rows under a title, the purposes in one column two blanks after the longest
label. -/
def block (title : String) (rows : List (String × String)) : List String :=
  if rows.isEmpty then []
  else
    let width := (rows.map (·.1.length)).foldl max 0
    ["", title ++ ":"] ++ rows.map fun (label, purpose) =>
      "  " ++ label ++ "".pushn ' ' (width - label.length) ++ "  " ++ purpose

def lines (page : HelpPage) : List String :=
  [page.purpose, "", "Usage: " ++ page.usage] ++ block "Commands" page.commands ++
    block "Arguments" page.arguments ++ block "Options" page.options

def text (page : HelpPage) : String := String.join (page.lines.map (· ++ "\n"))

end HelpPage

namespace Command

def purpose : Command → String
  | patch => "Idempotent regex find/replace patcher for source trees, with backups"
  | config => "Configuration management commands"
  | showConfig => "Display the effective configuration and where it came from"
  | validateConfig => "Load the configuration and compile every rule without touching files"

/-- The words that call a command. -/
def call : Command → String
  | patch => "repatch"
  | config => "repatch config"
  | showConfig => "repatch config show"
  | validateConfig => "repatch config validate"

def usage (command : Command) : String :=
  match command with
  | patch => command.call ++ " [OPTIONS] [ROOT] [COMMAND]"
  | config => command.call ++ " [OPTIONS] <COMMAND>"
  | _ => command.call ++ " [OPTIONS]"

def helpPurpose : String := "Print this message or the help of the given subcommand(s)"

def page (command : Command) : HelpPage where
  purpose := command.purpose
  usage := command.usage
  commands :=
    if command.leadsOn then
      command.children.map (fun (word, child) => (word, child.purpose)) ++ [("help", helpPurpose)]
    else []
  arguments :=
    if command.takesRoot then [(Slot.root.shown, Argument.purpose (.slot .root))] else []
  options := command.options.map fun option =>
    let letter :=
      match option.letter? with
      | some letter => "-" ++ letter.toString ++ ", "
      | none => "    "
    (letter ++ option.shown, option.purpose)

/-- The page of the word `help` after a command. -/
def helpPage (command : Command) : HelpPage where
  purpose := helpPurpose
  usage := command.call ++ " help [COMMAND]..."
  commands := []
  arguments := [("[COMMAND]...", "Print help for the subcommand(s)")]
  options := []

end Command

end Emend.CommandLine

import Emend.CommandLine.Help
import Emend.Text.Terminal

/-!
# Command lines that are not carried out

Reading a command line may end early: because help or the version is asked for, or
because the words do not fit.
-/

namespace Emend.CommandLine

/-- What may be wrong with the words of a command line. -/
inductive UsageFault where
  | unexpectedArgument (word : String)
  | unknownCommand (word : String)
  | missingCommand
  | missingValue (slot : Slot)
  | unexpectedValue (value : String) (switch : Switch)
  | repeatedArgument (argument : Argument)
  | forceWithoutInit
  | notText
  deriving DecidableEq

/-- What has been typed, as a message quotes it. -/
def quoted (typed : String) : String := "'" ++ Terminal.plain typed ++ "'"

def UsageFault.message : UsageFault → String
  | unexpectedArgument word => "unexpected argument " ++ quoted word ++ " found"
  | unknownCommand word => "unrecognized subcommand " ++ quoted word
  | missingCommand =>
    "'" ++ Command.config.call ++ "' requires a subcommand but one was not provided"
  | missingValue slot => "a value is required for '" ++ slot.shown ++ "' but none was supplied"
  | unexpectedValue value switch =>
    "unexpected value " ++ quoted value ++ " for '" ++ switch.shown ++
      "' found; no more were expected"
  | repeatedArgument argument =>
    "the argument '" ++ argument.shown ++ "' cannot be used multiple times"
  | forceWithoutInit => "the following required arguments were not provided:"
  | notText => "invalid UTF-8 was detected in one or more arguments"

/-- Why a command line is not carried out.  Help that is not asked for is shown
because a command is missing. -/
inductive Stop where
  | help (page : HelpPage)
  | helpUnasked (page : HelpPage)
  | version
  | fault (fault : UsageFault)

end Emend.CommandLine

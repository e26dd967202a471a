import Emend.Error

/-!
# Reports of failure

A report says what failed and lists the causes, each the cause of the one before, with
numbers if there are several.  An explanation without a text of its own ends the list.
-/

namespace Emend.CommandLine

/-- An error and what is behind it.  The explanation of a document or pattern that
cannot be read counts, but its text is missing. -/
def causes (error : Error) : List (Option String) :=
  some error.message ::
    match error with
    | .configUnparsable _ | .patternInvalid .. => [none]
    | error => error.cause?.toList.map some

/-- A text with blanks after its line ends. -/
def indent (width : Nat) (text : String) : String :=
  String.join <| text.toList.map fun c =>
    if c = '\n' then "\n".pushn ' ' width else c.toString

/-- The lines of causes from a number on.  A number is set in five columns. -/
def numbered (number : Nat) : List (Option String) → String
  | some cause :: rest =>
    "\n    " ++ toString number ++ ": " ++ indent 7 cause ++ numbered (number + 1) rest
  | _ => ""

def listed : List (Option String) → String
  | [some cause] => "\n    " ++ indent 4 cause
  | causes => numbered 0 causes

/-- What is shown of a failure. -/
def failureReport (context : String) (error : Error) : String :=
  "error: " ++ context ++ "\n\nCaused by:" ++ listed (causes error) ++ "\n"

end Emend.CommandLine

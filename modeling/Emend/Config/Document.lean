import Emend.Error
import Emend.Toml.Document

/-!
# Configurations as documents

A document configures by three keys, and what it leaves out keeps its built-in value.
A rule is a table of its two texts or an array that begins with them.  Other keys and
other kinds of values are refused.
-/

namespace Emend

open Emend.Toml

/-- The rule that a value describes. -/
def Rule.ofValue? : Value → Option Rule
  | .table entries => do
    guard (entries.length = 2)
    let pattern ← (← Table.get? entries "pattern").string?
    let replacement ← (← Table.get? entries "replacement").string?
    return ⟨pattern, replacement⟩
  | .array (.string pattern :: .string replacement :: _) => some ⟨pattern, replacement⟩
  | _ => none

namespace Config

def rulesOfValue? : Value → Option (List Rule)
  | .array items => items.mapM Rule.ofValue?
  | _ => none

/-- The value of a key, if it is given and is of the right kind, else what is built
in. -/
def given? {α : Type} (table : Table) (key : String) (read : Value → Option α) (builtIn : α) :
    Option α :=
  match Table.get? table key with
  | none => some builtIn
  | some v => read v

def ofTable? (table : Table) : Option Config := do
  guard ((Table.keys table).all (· ∈ ["root", "extensions", "rules"]))
  let root ← given? table "root" (fun v => v.string?.map Path.ofString) builtIn.root
  let extensions ← given? table "extensions" Value.strings? builtIn.extensions
  let rules ← given? table "rules" rulesOfValue? builtIn.rules
  return ⟨root, extensions, rules⟩

/-- Reads a document and checks what it configures. -/
def ofText (path : Path) (text : String) : Except Error Config :=
  match Table.ofText? text with
  | none => .error (.configUnparsable path)
  | some table =>
    match ofTable? table with
    | none => .error (.configUnparsable path)
    | some config => do
      config.validate
      return config

end Config

end Emend

import Emend.Pattern.Footprint
import Emend.Pattern.Meaning
import Emend.Pattern.Template

/-!
# Patterns

A pattern is compiled once and then applied to texts.  Compiling fails exactly when
the text is not well formed, asks for what is not known, or would take too much
memory.
-/

namespace Emend

open Emend.Pattern

/-- A compiled pattern: its expression with the program for it, and the names of its
capture groups. -/
structure Pattern where
  expr : Expr
  program : Program
  names : List (String × Nat)
  program_eq : program = expr.program := by rfl

namespace Pattern

def ofText (text : String) : Except PatternError Pattern := do
  let written ← Written.ofText text
  let (expr, _) ← written.ast.meaning .initial
  if expr.fits then .ok ⟨expr, expr.program, written.names, rfl⟩ else .error .tooLarge

def occursIn (p : Pattern) (text : Text) : Bool := (search p.program text 0).isSome

/-- Puts the expansions of a template in the places of matches, from a place on. -/
def spliceFrom (text : Text) (expand : Match → List Char) (place : Nat) :
    List Match → List Char
  | [] => (text.extract place text.size).toList
  | m :: rest =>
    (text.extract place m.start).toList ++ (expand m ++ spliceFrom text expand m.stop rest)

/-- Replaces every match in a text. -/
def replaceAll (p : Pattern) (template : Template) (input : String) : String :=
  let text := input.toList.toArray
  String.ofList <|
    spliceFrom text (template.expand p.names text) 0 (allMatches p.program text)

end Pattern

end Emend

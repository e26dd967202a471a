import Emend.Pattern

/-!
# Rules

A rule finds a pattern and puts a replacement in its place.  The rules of a table
are applied in order, each to what the one before has left.
-/

namespace Emend

/-- A rule as it is configured. -/
structure Rule where
  pattern : String
  replacement : String
  deriving DecidableEq

namespace Rule

/-- The rules that are used when none are configured. -/
def builtIn : List Rule := [
  ⟨"import\\s+flixel\\.animation\\.FlxFrameation\\s*;",
    "import flixel.graphics.frames.FlxFrame;"⟩,
  ⟨"\\bFlxFrameation\\b", "FlxFrame"⟩]

end Rule

/-- A rule that is ready for use. -/
structure CompiledRule where
  rule : Rule
  pattern : Pattern
  template : Pattern.Template

namespace CompiledRule

def ofRule (rule : Rule) : Except Pattern.PatternError CompiledRule := do
  let pattern ← Pattern.ofText rule.pattern
  return ⟨rule, pattern, Pattern.Template.ofText rule.replacement⟩

def occursIn (r : CompiledRule) (text : String) : Bool := r.pattern.occursIn text.toList.toArray

def apply (r : CompiledRule) (text : String) : String := r.pattern.replaceAll r.template text

end CompiledRule

abbrev RuleTable := List CompiledRule

namespace RuleTable

def apply (table : RuleTable) (text : String) : String :=
  table.foldl (fun text rule => rule.apply text) text

/-- The texts after each rule of a table. -/
def trace : RuleTable → String → List String
  | [], _ => []
  | rule :: rest, text => rule.apply text :: trace rest (rule.apply text)

end RuleTable

end Emend

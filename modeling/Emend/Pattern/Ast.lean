import Emend.Unicode.Property

/-!
# Pattern syntax trees

A pattern is read into a tree of what was written, before flags and character
tables give it a meaning.  Every part keeps only what can change that meaning;
the depth of a tree is counted so that deep nesting can be refused.
-/

namespace Emend.Pattern

open Emend.Unicode

/-- Why a text is no pattern. -/
inductive PatternError where
  | unclosedGroup
  | unopenedGroup
  | lookAround
  | groupNameInvalid
  | groupNameRepeated (name : String)
  | flagUnknown (c : Char)
  | flagRepeated
  | flagsUnfinished
  | repetitionOfNothing
  | repetitionCountInvalid
  | escapeUnfinished
  | escapeUnknown (c : Char)
  | backreference
  | codePointInvalid
  | wordBoundaryUnknown
  | unclosedClass
  | classItemInvalid
  | classRangeInvalid
  | nestingTooDeep
  | propertyUnknown
  | unicodeOff
  | notAlwaysText
  | tooLarge
  deriving DecidableEq

/-- A single character.  A character that is written as a byte stands for that
byte, not for the code point, where Unicode is switched off. -/
structure Literal where
  char : Char
  asByte : Bool
  deriving DecidableEq

inductive Flag where
  | ignoreCase
  | multiLine
  | dotAll
  | swapGreed
  | unicode
  | crlf
  | ignoreSpace
  deriving DecidableEq

/-- Flags that are switched on or off, in written order. -/
abbrev FlagChanges := List (Flag × Bool)

inductive Assertion where
  | lineStart
  | lineEnd
  | textStart
  | textEnd
  | wordBoundary
  | notWordBoundary
  | wordStart
  | wordEnd
  | wordStartHalf
  | wordEndHalf
  deriving DecidableEq

/-- The classes that have an escape of one letter. -/
inductive LetterClass where
  | digit
  | space
  | word
  deriving DecidableEq

/-- The ASCII classes that are written by name inside brackets. -/
inductive NamedClass where
  | alnum
  | alpha
  | ascii
  | blank
  | cntrl
  | digit
  | graph
  | lower
  | print
  | punct
  | space
  | upper
  | word
  | xdigit
  deriving DecidableEq

inductive ClassOp where
  | intersection
  | difference
  | symmetricDifference
  deriving DecidableEq

/-- A set of characters as it is written. -/
inductive ClassExpr where
  | empty
  | literal (c : Literal)
  | range (first last : Literal)
  | named (negated : Bool) (cls : NamedClass)
  | letter (negated : Bool) (cls : LetterClass)
  | property (negated : Bool) (query : PropertyQuery)
  | bracketed (negated : Bool) (body : ClassExpr)
  | union (items : List ClassExpr)
  | binary (op : ClassOp) (left right : ClassExpr)

/-- What a group does beside grouping. -/
inductive GroupKind where
  | capture (index : Nat)
  | flags (changes : FlagChanges)
  deriving DecidableEq

inductive Ast where
  | empty
  | flags (changes : FlagChanges)
  | literal (c : Literal)
  | dot
  | assertion (a : Assertion)
  | charClass (c : ClassExpr)
  | repetition (greedy : Bool) (least : Nat) (most : Option Nat) (body : Ast)
  | group (kind : GroupKind) (body : Ast)
  | alternation (branches : List Ast)
  | concat (parts : List Ast)

/-- A group of no items or of one item leaves no trace in the tree. -/
def ClassExpr.ofItems : List ClassExpr → ClassExpr
  | [] => .empty
  | [item] => item
  | items => .union items

def Ast.ofParts : List Ast → Ast
  | [] => .empty
  | [part] => part
  | parts => .concat parts

def Ast.ofBranches : List Ast → Ast
  | [branch] => branch
  | branches => .alternation branches

mutual

def ClassExpr.depth : ClassExpr → Nat
  | .bracketed _ body => body.depth + 1
  | .union items => ClassExpr.depthOfAll items + 1
  | .binary _ left right => max left.depth right.depth + 1
  | _ => 0

def ClassExpr.depthOfAll : List ClassExpr → Nat
  | [] => 0
  | item :: rest => max item.depth (ClassExpr.depthOfAll rest)

end

mutual

def Ast.depth : Ast → Nat
  | .charClass c => c.depth
  | .repetition _ _ _ body => body.depth + 1
  | .group _ body => body.depth + 1
  | .alternation branches => Ast.depthOfAll branches + 1
  | .concat parts => Ast.depthOfAll parts + 1
  | _ => 0

def Ast.depthOfAll : List Ast → Nat
  | [] => 0
  | part :: rest => max part.depth (Ast.depthOfAll rest)

end

/-- The deepest tree that is accepted. -/
def nestLimit : Nat := 250

end Emend.Pattern

import Emend.CharSet

/-!
# Expressions

An expression is what a pattern means, with flags, escapes and property names all
resolved: it is built from sets of characters and conditions on places.  The
constructors used outside this module keep expressions in a normal form, in which
sequences and choices are flat, a choice between single characters is a set, and a
choice whose branches begin alike has that beginning in front of it.
-/

namespace Emend.Pattern

/-- The places in a text that word characters can tell apart. -/
inductive WordEdge where
  | boundary
  | notBoundary
  | start
  | stop
  | startHalf
  | stopHalf
  deriving DecidableEq

/-- A condition on a place in a text, which takes no character. -/
inductive Look where
  | textStart
  | textEnd
  | lineStart
  | lineEnd
  | crlfLineStart
  | crlfLineEnd
  | word (unicode : Bool) (edge : WordEdge)
  deriving DecidableEq

inductive Expr where
  | empty
  | set (s : CharSet)
  | look (l : Look)
  | capture (index : Nat) (body : Expr)
  | repetition (greedy : Bool) (least : Nat) (most : Option Nat) (body : Expr)
  | cat (left right : Expr)
  | alt (left right : Expr)
  deriving DecidableEq

namespace Expr

/-- The least number of characters that a match can take.  It is unknown when some
branch cannot match at all. -/
def minLength : Expr → Option Nat
  | empty => some 0
  | set s => if s.isEmpty then none else some 1
  | look _ => some 0
  | capture _ body => body.minLength
  | repetition _ least _ body => body.minLength.map (· * least)
  | cat left right => do return (← left.minLength) + (← right.minLength)
  | alt left right => do return min (← left.minLength) (← right.minLength)

/-- The greatest number of characters that a match can take, if there is one. -/
def maxLength : Expr → Option Nat
  | empty => some 0
  | set s => if s.isEmpty then none else some 1
  | look _ => some 0
  | capture _ body => body.maxLength
  | repetition _ _ most body => do return (← body.maxLength) * (← most)
  | cat left right => do return (← left.maxLength) + (← right.maxLength)
  | alt left right => do return max (← left.maxLength) (← right.maxLength)

/-- Every match is known to take a character. -/
def takesSome (e : Expr) : Bool :=
  match e.minLength with
  | some n => 0 < n
  | none => false

/-- No match can take a character. -/
def takesNone (e : Expr) : Bool := e.maxLength == some 0

def char (c : Char) : Expr := set (.singleton c)

/-- The character that an expression stands for, if it is a single one. -/
def char? : Expr → Option Char
  | set s => s.single?
  | _ => none

/-- The parts of a sequence. -/
def parts : Expr → List Expr
  | empty => []
  | cat left right => left :: right.parts
  | e => [e]

def ofParts : List Expr → Expr
  | [] => empty
  | [e] => e
  | e :: rest => cat e (ofParts rest)

def sequence (es : List Expr) : Expr := ofParts (es.flatMap parts)

/-- The branches of a choice. -/
def branches : Expr → List Expr
  | alt left right => left :: right.branches
  | e => [e]

def ofBranches : List Expr → Expr
  | [] => set .empty
  | [e] => e
  | e :: rest => alt e (ofBranches rest)

/-- A set for a choice between single characters, or between sets none of which is
a single character. -/
def joinSets? (es : List Expr) : Option Expr :=
  match es.mapM char? with
  | some cs => some (set (CharSet.unionAll (cs.map CharSet.singleton)))
  | none =>
    let set? : Expr → Option CharSet
      | set s => if s.single?.isNone then some s else none
      | _ => none
    (es.mapM set?).map fun sets => set (CharSet.unionAll sets)

/-- The parts of a sequence with characters in a row kept together. -/
def segments (es : List Expr) : List (List Expr) :=
  es.splitBy fun a b => a.char?.isSome && b.char?.isSome

def sharedStart : List (List Expr) → List (List Expr) → List (List Expr)
  | a :: as, b :: bs => if a = b then a :: sharedStart as bs else []
  | _, _ => []

/-- The segments with which all branches begin, if every branch has two segments
or more. -/
def commonStart (es : List Expr) : List (List Expr) :=
  match es.map fun e => segments e.parts with
  | [] => []
  | first :: rest =>
    if (first :: rest).all fun s => 2 ≤ s.length then rest.foldl sharedStart first else []

/-- A choice between branches in order of preference. -/
def choice (es : List Expr) : Expr :=
  let flat := es.flatMap branches
  if flat.length ≤ 1 then ofBranches flat
  else
    match joinSets? flat with
    | some e => e
    | none =>
      let start := (commonStart flat).flatten
      if start.isEmpty then ofBranches flat
      else
        let ends := flat.map fun e => ofParts (e.parts.drop start.length)
        let flatEnds := ends.flatMap branches
        sequence (start ++ [(joinSets? flatEnds).getD (ofBranches flatEnds)])

/-- Repeats an expression.  Turns that take no character are worth one at most. -/
def repeated (greedy : Bool) (least : Nat) (most : Option Nat) (body : Expr) : Expr :=
  let (least, most) :=
    if body.takesNone then (min least 1, some (min (most.getD 1) 1)) else (least, most)
  if most = some 0 then empty
  else if least = 1 ∧ most = some 1 then body
  else repetition greedy least most body

end Expr

end Emend.Pattern

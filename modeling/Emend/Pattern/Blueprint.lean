import Emend.Pattern.ByteSequence
import Emend.Pattern.Expr

/-!
# Blueprints of automata

A blueprint lists the states of an automaton in the order in which they are made.
Most states take a known amount of memory, so that a count and a sum are enough for
them.  The states of a set of characters outside ASCII are shared among its byte
sequences, and how many there are depends on the states that were made before; a
blueprint keeps such a set as its sequences.

A search runs one automaton forwards and another backwards.  They differ in the order
of their parts, and only the forward one marks the bounds of groups.
-/

namespace Emend.Pattern

/-- The direction in which an automaton reads. -/
inductive Direction where
  | forward
  | backward
  deriving DecidableEq

/-- The memory of a state, of an edge for a byte run, and of a branch. -/
def stateSize : Nat := 32

def edgeSize : Nat := 8

def branchSize : Nat := 4

/-- Some states of an automaton: their number and the memory that they take. -/
structure Extent where
  states : Nat
  memory : Nat
  deriving DecidableEq

namespace Extent

def none : Extent := ⟨0, 0⟩

def add (a b : Extent) : Extent := ⟨a.states + b.states, a.memory + b.memory⟩

instance : Add Extent := ⟨add⟩

def times (n : Nat) (a : Extent) : Extent := ⟨n * a.states, n * a.memory⟩

/-- A number of states without edges or branches. -/
def plain (n : Nat) : Extent := ⟨n, n * stateSize⟩

/-- A state with an edge for each of some byte runs. -/
def edges (n : Nat) : Extent := ⟨1, stateSize + n * edgeSize⟩

/-- A state that branches. -/
def fork (branches : Nat) : Extent := ⟨1, stateSize + branches * branchSize⟩

def sum (extents : List Extent) : Extent := extents.foldl add none

end Extent

/-! ## Choices between words -/

/-- Cuts words at the empty ones: a word that ends is less preferred than those before
it and more than those after it.  At a place where nothing goes on yet, a second end
says nothing new. -/
def wordChunks (words : List (List Nat)) : List (List (List Nat)) :=
  let afterEnds := words.dropWhile List.isEmpty
  let chunks := afterEnds.splitOnP List.isEmpty
  if afterEnds.length < words.length then [] :: chunks else chunks

/-- The extent of the tree that a choice between words is read by, for words that have
at most a given length.  Words with the same beginning share it.  A place where words
go on has a state for each chunk that goes on, and one that branches between the
chunks and the ends. -/
def wordTree : Nat → List (List Nat) → Extent
  | 0, _ => .none
  | n + 1, words =>
    if words.all List.isEmpty then .none
    else
      let chunks := wordChunks words
      let ofChunk (chunk : List (List Nat)) : Extent :=
        let firsts := (chunk.filterMap List.head?).eraseDups
        let below := firsts.map fun byte =>
          wordTree n (chunk.filterMap fun word =>
            if word.head? = some byte then some (word.drop 1) else .none)
        .edges (if firsts.length = 1 then 0 else firsts.length) + .sum below
      let growing := chunks.filter fun chunk => !chunk.isEmpty
      .sum (growing.map ofChunk) + .fork (growing.length + (chunks.length - 1))

/-! ## Blueprints -/

inductive Blueprint where
  | fixed (extent : Extent)
  /-- The states that read a set of characters outside ASCII. -/
  | set (sequences : List ByteSequence)
  | both (first second : Blueprint)
  | copies (n : Nat) (body : Blueprint)

namespace Blueprint

def append : Blueprint → Blueprint → Blueprint
  | fixed a, fixed b => fixed (a + b)
  | first, second => both first second

instance : Append Blueprint := ⟨append⟩

def times (n : Nat) : Blueprint → Blueprint
  | fixed a => fixed (.times n a)
  | body => copies n body

def plain (n : Nat) : Blueprint := fixed (.plain n)

def fork (branches : Nat) : Blueprint := fixed (.fork branches)

/-- The states for one character or one set of them. -/
def ofSet (s : CharSet) : Blueprint :=
  match s.single? with
  | some c => plain c.utf8Size
  | none =>
    if s.isAscii then fixed (.plain 1 + .edges s.runs.length)
    else set (ByteSequence.ofSet s)

/-- The states for a repetition.  The end of a group of optional copies is made before
them.  A body that may take nothing is repeated by a fork after it, and passed by
through another. -/
def ofRepetition (takesSome : Bool) (least : Nat) (most : Option Nat) (body : Blueprint) :
    Blueprint :=
  let exactly (n : Nat) := if n = 0 then plain 1 else body.times n
  match least, most with
  | 0, none => if takesSome then fork 2 ++ body else body ++ fork 2 ++ fork 2 ++ plain 1
  | least, none => exactly least ++ fork 2
  | 0, some 1 => fork 2 ++ body ++ plain 1
  | least, some most =>
    if least = most then exactly least
    else exactly least ++ plain 1 ++ (fork 2 ++ body).times (most - least)

/-- The states for a choice.  The fork and the end that it shares are made after the
second branch. -/
def ofBranches : List Blueprint → Blueprint
  | [] => plain 0
  | [only] => only
  | first :: second :: others =>
    first ++ second ++ fork (2 + others.length) ++ plain 1 ++ others.foldr append (plain 0)

end Blueprint

namespace Expr

/-- The characters that an expression is a row of, if it is one. -/
def word? (e : Expr) : Option (List Char) :=
  match e with
  | empty => none
  | e => e.parts.mapM char?

/-- The states for an expression, from those for its branches. -/
def blueprintOf (d : Direction) (e : Expr) (branches : List Blueprint) : Blueprint :=
  match e with
  | alt .. =>
    match e.branches.mapM word? with
    | some words =>
      let bytes := words.map fun word =>
        let bytes := word.flatMap fun c => ByteSequence.bytesOf c.toNat
        if d = .forward then bytes else bytes.reverse
      let longest := (bytes.map List.length).foldl max 0
      .fixed (.plain 1 + wordTree longest bytes)
    | none => .ofBranches branches
  | _ => .ofBranches branches

/-- The states for each branch of an expression. -/
def branchBlueprints (d : Direction) : Expr → List Blueprint
  | empty => [.plain 1]
  | set s => [.ofSet s]
  | look _ => [.plain 1]
  | capture _ body =>
    let inner := blueprintOf d body (body.branchBlueprints d)
    [if d = .forward then .plain 1 ++ inner ++ .plain 1 else inner]
  | repetition _ least most body =>
    [.ofRepetition body.takesSome least most (blueprintOf d body (body.branchBlueprints d))]
  | cat left right =>
    let first := blueprintOf d left (left.branchBlueprints d)
    let second := blueprintOf d right (right.branchBlueprints d)
    [if d = .forward then first ++ second else second ++ first]
  | alt left right =>
    blueprintOf d left (left.branchBlueprints d) :: right.branchBlueprints d

/-- Whether every match is known to lie at an end of the text, and whether no match
takes a character. -/
structure Anchoring where
  anchored : Bool
  takesNone : Bool

/-- The anchoring of a sequence, from the end of the text on. -/
def Anchoring.inward (outer inner : Anchoring) : Anchoring :=
  ⟨outer.anchored || (outer.takesNone && inner.anchored), outer.takesNone && inner.takesNone⟩

/-- How an expression is bound to the end of the text where an automaton begins. -/
def anchoring (d : Direction) : Expr → Anchoring
  | empty => ⟨false, true⟩
  | set _ => ⟨false, false⟩
  | look l => ⟨l = if d = .forward then .textStart else .textEnd, true⟩
  | capture _ body => body.anchoring d
  | repetition _ least most body =>
    let inner := body.anchoring d
    ⟨least ≠ 0 && inner.anchored, most = some 0 || (most.isSome && inner.takesNone)⟩
  | cat left right =>
    match d with
    | .forward => (left.anchoring d).inward (right.anchoring d)
    | .backward => (right.anchoring d).inward (left.anchoring d)
  | alt left right =>
    let first := left.anchoring d
    let second := right.anchoring d
    ⟨first.anchored && second.anchored, first.takesNone && second.takesNone⟩

/-- The states of the whole automaton.  A search that may begin anywhere has a loop over
the text in front, and the forward automaton marks the bounds of the match. -/
def blueprint (d : Direction) (e : Expr) : Blueprint :=
  let body := blueprintOf d e (e.branchBlueprints d)
  let entry : Blueprint :=
    if (e.anchoring d).anchored then .plain 1
    else .fork 2 ++ .plain 1 ++ .fixed (.edges 1)
  match d with
  | .forward => entry ++ .plain 1 ++ body ++ .plain 2
  | .backward => entry ++ body ++ .plain 1

end Expr

end Emend.Pattern

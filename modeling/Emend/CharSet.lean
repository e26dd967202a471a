import Emend.Text.Hex

/-!
# Sets of characters

A set of characters is kept as runs of consecutive code points, in increasing
order and never touching each other, so that equal sets are equal values.  Only
scalar values count as characters: a complement never holds a surrogate.  Union
and complement are the primitive operations and the others are built from them.
-/

namespace Emend

/-- A run of consecutive code points, with both ends included. -/
structure CodeRun where
  first : Nat
  last : Nat
  deriving DecidableEq

structure CharSet where
  runs : List CodeRun
  deriving DecidableEq

namespace CharSet

/-- The greatest code point. -/
def lastCode : Nat := 0x10FFFF

def empty : CharSet := ⟨[]⟩

def singleton (c : Char) : CharSet := ⟨[⟨c.toNat, c.toNat⟩]⟩

def range (low high : Char) : CharSet :=
  if low ≤ high then ⟨[⟨low.toNat, high.toNat⟩]⟩ else empty

def ofPairs (pairs : List (Nat × Nat)) : CharSet :=
  ⟨pairs.map fun (first, last) => ⟨first, last⟩⟩

/-- Looks a code point up in increasing runs and stops at the first run that
begins after it. -/
def holds (code : Nat) : List CodeRun → Bool
  | [] => false
  | run :: rest =>
    if code < run.first then false
    else if code ≤ run.last then true
    else holds code rest

def contains (s : CharSet) (c : Char) : Bool := holds c.toNat s.runs

instance : Membership Char CharSet := ⟨fun s c => s.contains c = true⟩

instance (c : Char) (s : CharSet) : Decidable (c ∈ s) :=
  inferInstanceAs (Decidable (s.contains c = true))

/-- Joins runs that overlap or touch, in a list that is increasing by first
code point. -/
def joinRuns (current : CodeRun) : List CodeRun → List CodeRun
  | [] => [current]
  | run :: rest =>
    if run.first ≤ current.last + 1 then
      joinRuns ⟨current.first, max current.last run.last⟩ rest
    else current :: joinRuns run rest

def normalize : List CodeRun → List CodeRun
  | [] => []
  | run :: rest => joinRuns run rest

def union (s t : CharSet) : CharSet :=
  ⟨normalize (s.runs.merge t.runs fun a b => decide (a.first ≤ b.first))⟩

instance : Union CharSet := ⟨union⟩

def unionAll (sets : List CharSet) : CharSet := sets.foldl union empty

/-- The runs between increasing runs, from `start` up to the last code point. -/
def gaps (start : Nat) : List CodeRun → List CodeRun
  | [] => if start ≤ lastCode then [⟨start, lastCode⟩] else []
  | run :: rest =>
    if start < run.first then ⟨start, run.first - 1⟩ :: gaps (run.last + 1) rest
    else gaps (run.last + 1) rest

/-- The code points that stand for no character. -/
def surrogates : CharSet := ⟨[⟨0xD800, 0xDFFF⟩]⟩

def complement (s : CharSet) : CharSet := ⟨gaps 0 (s ∪ surrogates).runs⟩

def inter (s t : CharSet) : CharSet := (s.complement ∪ t.complement).complement

instance : Inter CharSet := ⟨inter⟩

def diff (s t : CharSet) : CharSet := s ∩ t.complement

instance : SDiff CharSet := ⟨diff⟩

/-- The characters that are in exactly one of two sets. -/
def symmDiff (s t : CharSet) : CharSet := (s ∪ t) \ (s ∩ t)

/-- All characters. -/
def all : CharSet := empty.complement

def ascii : CharSet := ⟨[⟨0, 0x7F⟩]⟩

def isEmpty (s : CharSet) : Bool := s.runs.isEmpty

def isAscii (s : CharSet) : Bool := s.runs.all fun run => run.last ≤ 0x7F

/-- The only member of a set that has one member. -/
def single? (s : CharSet) : Option Char :=
  match s.runs with
  | [run] => if run.first = run.last then some (Char.ofNat run.first) else none
  | _ => none

/-- State of reading a table: the first end of an unfinished run, the number
that is being read, and the finished runs in reverse. -/
structure TableReader where
  first : Option Nat
  number : Option Nat
  done : List CodeRun

def TableReader.finish (r : TableReader) : TableReader :=
  match r.number with
  | none => r
  | some n => ⟨none, none, ⟨r.first.getD n, n⟩ :: r.done⟩

def TableReader.step (r : TableReader) (c : Char) : TableReader :=
  match Hex.digit? c with
  | some d => { r with number := some (r.number.getD 0 * 16 + d) }
  | none => if c = '-' then { r with first := r.number, number := none } else r.finish

/-- Reads increasing runs that are written as hexadecimal code points, with a
hyphen between the ends of a run and blanks between runs. -/
def ofTable (text : String) : CharSet :=
  ⟨(text.toList.foldl TableReader.step ⟨none, none, []⟩).finish.done.reverse⟩

end CharSet

end Emend

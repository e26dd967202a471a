import Emend.Pattern.Place
import Emend.Pattern.Program
import Std.Data.HashSet

/-!
# Searching for matches

A search follows a program from one place in a text, the preferred way of every
fork first, and stops at the first match.  A way is a pair of an address and a
place.  What can still be matched depends on these alone, so no way is followed
twice, not even from another starting place: if it had led to a match, the search
would be over.
-/

namespace Emend.Pattern

/-- The bounds of capture groups: the place for a slot, the last mark first. -/
abbrev Marks := List (Nat × Nat)

/-- A way through a program that is still to be followed. -/
structure Way where
  address : Nat
  place : Nat
  marks : Marks

/-- A match lies between two places and knows the bounds of its capture groups. -/
structure Match where
  start : Nat
  stop : Nat
  marks : Marks

/-- What the instruction at the head of a way leads to: a match, or further ways
in order of preference. -/
inductive Outcome where
  | accepted
  | next (ways : List Way)

def Way.outcome (program : Program) (text : Text) (way : Way) : Outcome :=
  match program[way.address]? with
  | some (.take s) =>
    match text[way.place]? with
    | some c =>
      if s.contains c then .next [⟨way.address + 1, way.place + 1, way.marks⟩] else .next []
    | none => .next []
  | some (.check l) =>
    if l.holds text way.place then .next [⟨way.address + 1, way.place, way.marks⟩] else .next []
  | some (.mark slot) =>
    .next [⟨way.address + 1, way.place, (slot, way.place) :: way.marks⟩]
  | some (.fork preferred other) =>
    .next [⟨preferred, way.place, way.marks⟩, ⟨other, way.place, way.marks⟩]
  | some (.jump address) => .next [⟨address, way.place, way.marks⟩]
  | some .accept => .accepted
  | none => .next []

/-- The ways that have been followed, each as one number. -/
abbrev Seen := Std.HashSet Nat

def Way.key (program : Program) (way : Way) : Nat :=
  way.place * program.size + way.address

/-- Follows ways until one is accepted or none is left.  No more ways than `limit`
are followed, which is no restriction if there are no more of them. -/
def follow (program : Program) (text : Text) (limit : Nat) :
    List Way → Seen → Option Way × Seen
  | [], seen => (none, seen)
  | way :: rest, seen =>
    if way.key program ∈ seen then follow program text limit rest seen
    else if seen.size < limit then
      match way.outcome program text with
      | .accepted => (some way, seen)
      | .next ways =>
        follow program text limit (ways ++ rest) (seen.insert (way.key program))
    else (none, seen)
termination_by ways seen => (limit - seen.size, ways.length)
decreasing_by
  · exact Prod.Lex.right _ (by simp)
  · refine Prod.Lex.left _ _ ?_
    rename_i hnew hroom
    simp only [Std.HashSet.size_insert, if_neg hnew]
    omega

/-- The number of pairs of an address and a place. -/
def wayCount (program : Program) (text : Text) : Nat :=
  (text.size + 1) * program.size

/-- Tries the starting places from left to right. -/
def searchFrom (program : Program) (text : Text) : Nat → Nat → Seen → Option Match
  | 0, _, _ => none
  | tries + 1, start, seen =>
    match follow program text (wayCount program text) [⟨0, start, []⟩] seen with
    | (some way, _) => some ⟨start, way.place, way.marks⟩
    | (none, seen) => searchFrom program text tries (start + 1) seen

/-- The leftmost match that begins at or after a place, and among those that begin
there the one that is preferred. -/
def search (program : Program) (text : Text) (start : Nat) : Option Match :=
  searchFrom program text (text.size + 1 - start) start ∅

/-- The matches from a place on.  An empty match right at the end of the one before
is passed over for the next match further on.  Every match ends later than the one
before, so the number of places bounds the matches. -/
def matchesFrom (program : Program) (text : Text) :
    Nat → Nat → Option Nat → List Match
  | 0, _, _ => []
  | count + 1, start, lastStop =>
    let found :=
      match search program text start with
      | some m =>
        if m.start = m.stop ∧ lastStop = some m.stop then search program text (start + 1)
        else some m
      | none => none
    match found with
    | none => []
    | some m => m :: matchesFrom program text count m.stop (some m.stop)

/-- All matches in a text, from left to right and without overlap. -/
def allMatches (program : Program) (text : Text) : List Match :=
  matchesFrom program text (text.size + 1) 0 none

namespace Match

/-- The place that was kept last for a slot. -/
def slot? (m : Match) (slot : Nat) : Option Nat :=
  (m.marks.find? (·.1 = slot)).map (·.2)

/-- The text that a capture group holds; group zero is the whole match, and a group
that took no part holds nothing. -/
def group (m : Match) (text : Text) (index : Nat) : List Char :=
  if index = 0 then (text.extract m.start m.stop).toList
  else
    match m.slot? (2 * index), m.slot? (2 * index + 1) with
    | some start, some stop => (text.extract start stop).toList
    | _, _ => []

end Match

end Emend.Pattern

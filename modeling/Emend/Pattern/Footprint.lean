import Emend.Pattern.Blueprint
import Std.Data.HashMap

/-!
# The memory of an automaton

A pattern is refused when one of its automata would take too much memory.  While an
automaton is made, the states of a set of characters are shared through a table with a
fixed number of places: a state that would be the same as one in the table is used
again, and one that falls on a place in use takes that place over.  What falls where
depends on the numbers of the states.
-/

namespace Emend.Pattern

/-- The greatest memory that an automaton may take. -/
def sizeLimit : Nat := 10 * 1024 * 1024

/-! ## Tables with few places -/

/-- Mixes numbers into one, one after the other. -/
def mixInto (mixed : UInt64) : List Nat → UInt64
  | [] => mixed
  | n :: rest => mixInto ((mixed ^^^ n.toUInt64) * 1099511628211) rest

/-- The place of what is made from some numbers in a table with a number of places. -/
def placeOf (places : Nat) (numbers : List Nat) : Nat :=
  (mixInto 14695981039346656037 numbers % places.toUInt64).toNat

/-- The states that are known, each with what it was made from, by their places. -/
abbrev StateTable := Std.HashMap Nat (List Nat × Nat)

/-- An automaton in the making. -/
structure Automaton where
  extent : Extent

namespace Automaton

def isTooLarge (a : Automaton) : Bool := sizeLimit < a.extent.memory

def add (a : Automaton) (extent : Extent) : Automaton := ⟨a.extent + extent⟩

/-- The number that the next state gets. -/
def next (a : Automaton) : Nat := a.extent.states

/-- Finds the state that is made from the given numbers, or makes it. -/
def share (places : Nat) (key : List Nat) (made : Extent) (a : Automaton) (table : StateTable) :
    Nat × Automaton × StateTable :=
  let place := placeOf places key
  match table[place]?.filter fun (known, _) => known = key with
  | some (_, state) => (state, a, table)
  | none => (a.next, a.add made, table.insert place (key, a.next))

/-! ## Sets of characters -/

/-- Makes the states for one sequence that is read backwards: each byte run leads to
the state of the run before it, and the first one to the given state. -/
def addBackwards (table : StateTable) (a : Automaton) (state : Nat) :
    ByteSequence → Automaton × StateTable
  | [] => (a.add ⟨0, branchSize⟩, table)
  | run :: rest =>
    let (state, a, table) := share 1000 [state, run.first, run.last] (.plain 1) a table
    addBackwards table a state rest

/-- Makes the state that reads what is left of some sequences, after the states that
it leads to.  Characters have four bytes at most. -/
def addForwards (final : Nat) :
    Nat → List ByteSequence → Automaton × StateTable → Nat × Automaton × StateTable
  | 0, _, (a, table) => (final, a, table)
  | n + 1, sequences, made =>
    if sequences.all List.isEmpty then (final, made)
    else
      let groups := ByteSequence.byFirst sequences
      let (edges, a, table) := groups.foldl
        (fun (edges, made) (run, rest) =>
          let (target, made) := addForwards final n rest made
          ([run.first, run.last, target] :: edges, made))
        ([], made)
      share 10000 edges.reverse.flatten (.edges groups.length) a table

/-- Makes the states for a set of characters. -/
def addSet (d : Direction) (sequences : List ByteSequence) (a : Automaton) : Automaton :=
  match d with
  | .forward => (addForwards a.next 4 sequences (a.add (.plain 1), ∅)).2.1
  | .backward =>
    let final := a.next + 1
    (sequences.foldl (fun (a, table) s => addBackwards table a final s)
      (a.add (.plain 2), (∅ : StateTable))).1

/-! ## Blueprints -/

/-- Does something a number of times, or until the automaton is too large. -/
def repeatedly (step : Automaton → Automaton) : Nat → Automaton → Automaton
  | 0, a => a
  | n + 1, a => if a.isTooLarge then a else repeatedly step n (step a)

/-- Makes the states that a blueprint lists. -/
def follow (d : Direction) : Blueprint → Automaton → Automaton
  | .fixed extent, a => a.add extent
  | .set sequences, a => if a.isTooLarge then a else a.addSet d sequences
  | .both first second, a => follow d second (follow d first a)
  | .copies n body, a => repeatedly (follow d body) n a

end Automaton

/-- From this number on, a choice between words is looked for without automata. -/
def manyWords : Nat := 3000

def Expr.isManyWords (e : Expr) : Bool :=
  manyWords ≤ e.branches.length && (e.branches.mapM word?).isSome

/-- Both automata of an expression keep to the limit. -/
def Expr.fits (e : Expr) : Bool :=
  e.isManyWords ||
    [Direction.forward, .backward].all fun d =>
      !(Automaton.follow d (e.blueprint d) ⟨.none⟩).isTooLarge

end Emend.Pattern

import Emend.Pattern.Expr

/-!
# Programs

An expression is laid out as a list of instructions that is entered at its first
address and left at the address after its last.  A fork names the address that is
preferred and then the other one, so that the order in which a search follows forks
is the order of preference between matches.
-/

namespace Emend.Pattern

inductive Instruction where
  /-- Takes a character of a set. -/
  | take (s : CharSet)
  /-- Goes on only where a condition holds. -/
  | check (l : Look)
  /-- Keeps the place as a bound of a capture group. -/
  | mark (slot : Nat)
  | fork (preferred other : Nat)
  | jump (address : Nat)
  | accept
  deriving DecidableEq

abbrev Program := Array Instruction

/-- A fork between entering a part and passing it by. -/
def Instruction.enterOr (greedy : Bool) (enter leave : Nat) : Instruction :=
  if greedy then .fork enter leave else .fork leave enter

namespace Expr

/-- The number of instructions that an expression is laid out in. -/
def width : Expr → Nat
  | empty => 0
  | set _ => 1
  | look _ => 1
  | capture _ body => body.width + 2
  | repetition _ least none body =>
    if least = 0 then body.width + 2 else least * body.width + 1
  | repetition _ least (some most) body => least * body.width + (most - least) * (body.width + 1)
  | cat left right => left.width + right.width
  | alt left right => left.width + right.width + 2

/-- Copies of a part one after the other, each at its own address. -/
def copies (count step address : Nat) (part : Nat → List Instruction) : List Instruction :=
  (List.range count).flatMap fun i => part (address + i * step)

/-- The instructions of an expression that begins at an address.  A loop around a
body that may take no character is entered through a fork of its own and repeated
through another after the body, so that leaving the loop without a turn and leaving
it after an empty turn keep their places in the order of preference. -/
def layout : Expr → Nat → List Instruction
  | empty, _ => []
  | set s, _ => [.take s]
  | look l, _ => [.check l]
  | capture index body, a =>
    .mark (2 * index) :: body.layout (a + 1) ++ [.mark (2 * index + 1)]
  | repetition greedy least none body, a =>
    let w := body.width
    if least = 0 then
      let stop := a + w + 2
      let again := if body.takesSome then .jump a else .enterOr greedy (a + 1) stop
      .enterOr greedy (a + 1) stop :: body.layout (a + 1) ++ [again]
    else
      copies least w a body.layout ++
        [.enterOr greedy (a + (least - 1) * w) (a + least * w + 1)]
  | repetition greedy least (some most) body, a =>
    let w := body.width
    let b := a + least * w
    let stop := b + (most - least) * (w + 1)
    copies least w a body.layout ++
      copies (most - least) (w + 1) b fun c =>
        .enterOr greedy (c + 1) stop :: body.layout (c + 1)
  | cat left right, a => left.layout a ++ right.layout (a + left.width)
  | alt left right, a =>
    let b := a + 1 + left.width + 1
    .fork (a + 1) b :: left.layout (a + 1) ++ .jump (b + right.width) :: right.layout b

/-- The program that accepts what an expression matches. -/
def program (e : Expr) : Program := (e.layout 0 ++ [Instruction.accept]).toArray

end Expr

end Emend.Pattern

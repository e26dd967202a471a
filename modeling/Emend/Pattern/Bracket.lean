import Emend.Pattern.Escape

/-!
# Reading bracketed classes

A bracketed class is read with a list of the brackets that are still open, the
innermost first.  Items beside each other form a union, which binds tighter than
the set operators; these are taken from left to right.
-/

namespace Emend.Pattern

/-- An open bracket: whether it is negated, the operator that waits for its right
side, and the items since then, last first. -/
structure OpenBracket where
  negated : Bool
  pending : Option (ClassOp × ClassExpr)
  items : List ClassExpr

namespace OpenBracket

def push (b : OpenBracket) (item : ClassExpr) : OpenBracket :=
  { b with items := item :: b.items }

/-- What has been read since the bracket was opened. -/
def body (b : OpenBracket) : ClassExpr :=
  let last := ClassExpr.ofItems b.items.reverse
  match b.pending with
  | none => last
  | some (op, left) => .binary op left last

def operator (b : OpenBracket) (op : ClassOp) : OpenBracket :=
  ⟨b.negated, some (op, b.body), []⟩

/-- Hyphens at the beginning stand for themselves. -/
def leadingHyphens (spaced : Bool) : Nat → List Char → List ClassExpr × List Char
  | 0, rest => ([], rest)
  | n + 1, '-' :: rest =>
    let (more, rest) := leadingHyphens spaced n (skipIf spaced rest)
    (.literal ⟨'-', false⟩ :: more, rest)
  | _ + 1, rest => ([], rest)

/-- Reads what follows an opening bracket up to the first ordinary item.  A closing
bracket that stands first stands for itself. -/
def start (spaced : Bool) (rest : List Char) : OpenBracket × List Char :=
  let rest := skipIf spaced rest
  let (negated, rest) :=
    match rest with
    | '^' :: rest => (true, skipIf spaced rest)
    | rest => (false, rest)
  let (hyphens, rest) := leadingHyphens spaced rest.length rest
  match hyphens, rest with
  | [], ']' :: rest => (⟨negated, none, [.literal ⟨']', false⟩]⟩, skipIf spaced rest)
  | _, rest => (⟨negated, none, hyphens.reverse⟩, rest)

end OpenBracket

def namedClass? (name : List Char) : Option NamedClass :=
  match String.ofList name with
  | "alnum" => some .alnum
  | "alpha" => some .alpha
  | "ascii" => some .ascii
  | "blank" => some .blank
  | "cntrl" => some .cntrl
  | "digit" => some .digit
  | "graph" => some .graph
  | "lower" => some .lower
  | "print" => some .print
  | "punct" => some .punct
  | "space" => some .space
  | "upper" => some .upper
  | "word" => some .word
  | "xdigit" => some .xdigit
  | _ => none

/-- Reads a class by name after its opening bracket, if one stands there. -/
def readNamedClass? (rest : List Char) : Option (ClassExpr × List Char) :=
  let read (negated : Bool) (rest : List Char) : Option (ClassExpr × List Char) :=
    match rest.dropWhile (· ≠ ':') with
    | ':' :: ']' :: after =>
      (namedClass? (rest.takeWhile (· ≠ ':'))).map fun cls => (.named negated cls, after)
    | _ => none
  match rest with
  | ':' :: '^' :: rest => read true rest
  | ':' :: rest => read false rest
  | _ => none

/-- Reads a character or an escape. -/
def readClassItem (spaced : Bool) :
    List Char → Except PatternError (ClassExpr × List Char)
  | [] => .error .unclosedClass
  | '\\' :: rest => do
    match ← readEscape spaced rest with
    | (.literal c, rest) => .ok (.literal c, rest)
    | (.charClass cls, rest) => .ok (cls, rest)
    | _ => .error .classItemInvalid
  | c :: rest => .ok (.literal ⟨c, false⟩, rest)

/-- The sign after a hyphen, with blanks passed over.  A comment is passed over
only up to its first sign. -/
def signAfterHyphen (spaced : Bool) (rest : List Char) : Option Char :=
  if !spaced then rest.head?
  else
    match rest.dropWhile isBlank with
    | [] => rest.head?
    | '#' :: comment =>
      match comment.dropWhile isBlank with
      | [] => rest.head?
      | c :: _ => some c
    | c :: _ => some c

/-- Reads an item, or a range if a hyphen and a second item follow. -/
def readClassRange (spaced : Bool) (rest : List Char) :
    Except PatternError (ClassExpr × List Char) := do
  let (first, rest) ← readClassItem spaced rest
  match skipIf spaced rest with
  | '-' :: rest =>
    let next := signAfterHyphen spaced rest
    if next = some ']' ∨ next = some '-' then .ok (first, '-' :: rest)
    else
      match first, ← readClassItem spaced (skipIf spaced rest) with
      | .literal low, (.literal high, rest) =>
        if low.char ≤ high.char then .ok (.range low high, rest) else .error .classRangeInvalid
      | _, _ => .error .classRangeInvalid
  | rest => .ok (first, rest)

/-- Reads up to the bracket that closes the outermost open one.  Every turn takes a
character, so the number of those that are left bounds the turns. -/
def readBracketFrom (spaced : Bool) : Nat → OpenBracket → List OpenBracket → List Char →
    Except PatternError (ClassExpr × List Char)
  | 0, _, _, _ => .error .unclosedClass
  | n + 1, inner, outer, rest =>
    match skipIf spaced rest with
    | [] => .error .unclosedClass
    | '[' :: rest =>
      match readNamedClass? rest with
      | some (cls, rest) => readBracketFrom spaced n (inner.push cls) outer rest
      | none =>
        let (opened, rest) := OpenBracket.start spaced rest
        readBracketFrom spaced n opened (inner :: outer) rest
    | ']' :: rest =>
      let closed := ClassExpr.bracketed inner.negated inner.body
      match outer with
      | [] => .ok (closed, rest)
      | next :: outer => readBracketFrom spaced n (next.push closed) outer rest
    | '&' :: '&' :: rest => readBracketFrom spaced n (inner.operator .intersection) outer rest
    | '-' :: '-' :: rest => readBracketFrom spaced n (inner.operator .difference) outer rest
    | '~' :: '~' :: rest =>
      readBracketFrom spaced n (inner.operator .symmetricDifference) outer rest
    | rest => do
      let (item, rest) ← readClassRange spaced rest
      readBracketFrom spaced n (inner.push item) outer rest

/-- Reads a bracketed class after its opening bracket. -/
def readBracket (spaced : Bool) (rest : List Char) :
    Except PatternError (ClassExpr × List Char) :=
  let (opened, after) := OpenBracket.start spaced rest
  readBracketFrom spaced (rest.length + 1) opened [] after

end Emend.Pattern

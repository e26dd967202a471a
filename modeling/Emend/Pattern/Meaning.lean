import Emend.Pattern.Expr
import Emend.Pattern.Reading
import Emend.Unicode.CaseFold

/-!
# The meaning of a pattern

The flags in force decide what every part of a pattern stands for.  A group that
sets flags sets them for its body alone, and a change of flags on its own lasts up
to the end of the group around it, across branches.  A pattern may only match whole
characters, so where Unicode is switched off whatever could match a lone byte is
refused.
-/

namespace Emend.Pattern

open Emend.Unicode

structure Flags where
  ignoreCase : Bool
  multiLine : Bool
  dotAll : Bool
  swapGreed : Bool
  unicode : Bool
  crlf : Bool

namespace Flags

def initial : Flags := ⟨false, false, false, false, true, false⟩

def set (f : Flags) : Flag × Bool → Flags
  | (.ignoreCase, on) => { f with ignoreCase := on }
  | (.multiLine, on) => { f with multiLine := on }
  | (.dotAll, on) => { f with dotAll := on }
  | (.swapGreed, on) => { f with swapGreed := on }
  | (.unicode, on) => { f with unicode := on }
  | (.crlf, on) => { f with crlf := on }
  | (.ignoreSpace, _) => f

def change (f : Flags) (changes : FlagChanges) : Flags := changes.foldl set f

end Flags

def LetterClass.unicodeSet : LetterClass → CharSet
  | .digit => decimalDigit
  | .space => whiteSpace
  | .word => wordCharacter

def NamedClass.set : NamedClass → CharSet
  | .alnum => .ofPairs [(0x30, 0x39), (0x41, 0x5A), (0x61, 0x7A)]
  | .alpha => .ofPairs [(0x41, 0x5A), (0x61, 0x7A)]
  | .ascii => .ofPairs [(0, 0x7F)]
  | .blank => .ofPairs [(0x09, 0x09), (0x20, 0x20)]
  | .cntrl => .ofPairs [(0, 0x1F), (0x7F, 0x7F)]
  | .digit => .ofPairs [(0x30, 0x39)]
  | .graph => .ofPairs [(0x21, 0x7E)]
  | .lower => .ofPairs [(0x61, 0x7A)]
  | .print => .ofPairs [(0x20, 0x7E)]
  | .punct => .ofPairs [(0x21, 0x2F), (0x3A, 0x40), (0x5B, 0x60), (0x7B, 0x7E)]
  | .space => .ofPairs [(0x09, 0x0D), (0x20, 0x20)]
  | .upper => .ofPairs [(0x41, 0x5A)]
  | .word => .ofPairs [(0x30, 0x39), (0x41, 0x5A), (0x5F, 0x5F), (0x61, 0x7A)]
  | .xdigit => .ofPairs [(0x30, 0x39), (0x41, 0x46), (0x61, 0x66)]

def LetterClass.asciiSet : LetterClass → CharSet
  | .digit => NamedClass.set .digit
  | .space => NamedClass.set .space
  | .word => NamedClass.set .word

/-- The set of all case variants, if case is ignored. -/
def Flags.fold (f : Flags) (s : CharSet) : CharSet :=
  if !f.ignoreCase then s
  else if f.unicode then closeUnderCase s
  else closeUnderAsciiCase s

/-- Without Unicode a complement would hold bytes that are no characters. -/
def Flags.negate (f : Flags) (negated : Bool) (s : CharSet) : Except PatternError CharSet :=
  if !negated then .ok s
  else if f.unicode then .ok s.complement
  else .error .notAlwaysText

/-- The character that a literal stands for. -/
def Literal.resolve (f : Flags) (l : Literal) : Except PatternError Char :=
  if !f.unicode && l.asByte && decide (0x7F < l.char.toNat) then .error .notAlwaysText
  else .ok l.char

/-- Inside a class without Unicode only ASCII can be meant. -/
def Literal.resolveInClass (f : Flags) (l : Literal) : Except PatternError Char := do
  let c ← l.resolve f
  if !f.unicode && decide (0x7F < c.toNat) then .error .unicodeOff else .ok c

def ClassOp.apply : ClassOp → CharSet → CharSet → CharSet
  | .intersection, s, t => s ∩ t
  | .difference, s, t => s \ t
  | .symmetricDifference, s, t => s.symmDiff t

mutual

def ClassExpr.meaning (f : Flags) : ClassExpr → Except PatternError CharSet
  | .empty => .ok .empty
  | .literal c => do return .singleton (← c.resolveInClass f)
  | .range first last => do return .range (← first.resolveInClass f) (← last.resolveInClass f)
  | .named negated cls => f.negate negated (f.fold cls.set)
  | .letter negated cls => f.negate negated (if f.unicode then cls.unicodeSet else cls.asciiSet)
  | .property negated query =>
    if !f.unicode then .error .unicodeOff
    else
      match query.find? with
      | none => .error .propertyUnknown
      | some s => f.negate negated (f.fold s)
  | .bracketed negated body => do f.negate negated (f.fold (← body.meaning f))
  | .union items => ClassExpr.meaningOfAll f items
  | .binary op left right => do return op.apply (f.fold (← left.meaning f)) (f.fold (← right.meaning f))

def ClassExpr.meaningOfAll (f : Flags) : List ClassExpr → Except PatternError CharSet
  | [] => .ok .empty
  | item :: rest => do return (← item.meaning f) ∪ (← ClassExpr.meaningOfAll f rest)

end

def Assertion.look (f : Flags) : Assertion → Look
  | .lineStart =>
    if !f.multiLine then .textStart else if f.crlf then .crlfLineStart else .lineStart
  | .lineEnd => if !f.multiLine then .textEnd else if f.crlf then .crlfLineEnd else .lineEnd
  | .textStart => .textStart
  | .textEnd => .textEnd
  | .wordBoundary => .word f.unicode .boundary
  | .notWordBoundary => .word f.unicode .notBoundary
  | .wordStart => .word f.unicode .start
  | .wordEnd => .word f.unicode .stop
  | .wordStartHalf => .word f.unicode .startHalf
  | .wordEndHalf => .word f.unicode .stopHalf

/-- The characters that a dot matches. -/
def Flags.dot (f : Flags) : Except PatternError CharSet :=
  if !f.unicode then .error .notAlwaysText
  else if f.dotAll then .ok .all
  else if f.crlf then .ok (CharSet.ofPairs [(0x0A, 0x0A), (0x0D, 0x0D)]).complement
  else .ok (CharSet.singleton '\n').complement

mutual

/-- The expression that a tree stands for, and the flags in force after it. -/
def Ast.meaning (f : Flags) : Ast → Except PatternError (Expr × Flags)
  | .empty => .ok (.empty, f)
  | .flags changes => .ok (.empty, f.change changes)
  | .literal l => do return (.set (f.fold (.singleton (← l.resolve f))), f)
  | .dot => do return (.set (← f.dot), f)
  | .assertion a => .ok (.look (a.look f), f)
  | .charClass c => do return (.set (← c.meaning f), f)
  | .repetition greedy least most body => do
    let (e, f) ← body.meaning f
    return (e.repeated (greedy != f.swapGreed) least most, f)
  | .group (.capture index) body => do
    let (e, _) ← body.meaning f
    return (.capture index e, f)
  | .group (.flags changes) body => do
    let (e, _) ← body.meaning (f.change changes)
    return (e, f)
  | .alternation branches => do
    let (es, f) ← Ast.meaningOfAll f branches
    return (Expr.choice es, f)
  | .concat parts => do
    let (es, f) ← Ast.meaningOfAll f parts
    return (Expr.sequence es, f)

def Ast.meaningOfAll (f : Flags) : List Ast → Except PatternError (List Expr × Flags)
  | [] => .ok ([], f)
  | part :: rest => do
    let (e, f) ← part.meaning f
    let (es, f) ← Ast.meaningOfAll f rest
    return (e :: es, f)

end

end Emend.Pattern

import Emend.Pattern.Bracket

/-!
# Reading patterns

A pattern is read from left to right with a list of the groups that are still
open.  A repetition takes the part before it, an upright stroke ends a branch, and
a closing parenthesis turns what an open group holds into one part of the level
around it.
-/

namespace Emend.Pattern

open Emend.Unicode

/-- What has been read of one group: its finished branches and the parts of its
last branch, both last first. -/
structure Level where
  branches : List Ast
  parts : List Ast

namespace Level

def empty : Level := ⟨[], []⟩

def push (level : Level) (part : Ast) : Level := { level with parts := part :: level.parts }

def endBranch (level : Level) : Level :=
  ⟨Ast.ofParts level.parts.reverse :: level.branches, []⟩

def close (level : Level) : Ast := Ast.ofBranches level.endBranch.branches.reverse

/-- Replaces the last part by a repetition of it.  Nothing and a change of flags
cannot be repeated. -/
def repeatLast (level : Level) (greedy : Bool) (least : Nat) (most : Option Nat) :
    Except PatternError Level :=
  match level.parts with
  | [] | .flags _ :: _ | .empty :: _ => .error .repetitionOfNothing
  | part :: parts => .ok { level with parts := .repetition greedy least most part :: parts }

end Level

/-- An open group, with what it does, the level around it, and whether blanks are
ignored there. -/
structure OpenGroup where
  kind : GroupKind
  around : Level
  spaced : Bool

/-- The part of a pattern that is left, and what has been met before it: whether
blanks are ignored, how many groups capture, and the names among them. -/
structure Cursor where
  rest : List Char
  spaced : Bool
  groups : Nat
  names : List (String × Nat)

/-- A pattern as it is written, with its capture groups. -/
structure Written where
  ast : Ast
  groups : Nat
  names : List (String × Nat)

def flag? : Char → Option Flag
  | 'i' => some .ignoreCase
  | 'm' => some .multiLine
  | 's' => some .dotAll
  | 'U' => some .swapGreed
  | 'u' => some .unicode
  | 'R' => some .crlf
  | 'x' => some .ignoreSpace
  | _ => none

/-- Reads flags up to a colon or a closing parenthesis, which is left.  Flags after
a hyphen are switched off; no flag and no hyphen may come twice, and a hyphen may
not come last. -/
def readFlags (changes : FlagChanges) (off bare : Bool) :
    List Char → Except PatternError (FlagChanges × List Char)
  | [] => .error .flagsUnfinished
  | c :: rest =>
    if c = ':' ∨ c = ')' then
      if bare then .error .flagsUnfinished else .ok (changes.reverse, c :: rest)
    else if c = '-' then
      if off then .error .flagRepeated else readFlags changes true true rest
    else
      match flag? c with
      | none => .error (.flagUnknown c)
      | some flag =>
        if changes.any (·.1 = flag) then .error .flagRepeated
        else readFlags ((flag, !off) :: changes) off false rest

/-- Whether blanks are ignored after a change of flags. -/
def spacedAfter (spaced : Bool) (changes : FlagChanges) : Bool :=
  ((changes.find? (·.1 = .ignoreSpace)).map (·.2)).getD spaced

/-- The table of letters. -/
def alphabetic : CharSet :=
  ((PropertyQuery.named "Alphabetic").find?).getD .empty ∪ addedLetter

/-- The table of numbers. -/
def numeric : CharSet := ((PropertyQuery.named "Number").find?).getD .empty ∪ addedNumber

/-- The letters of group names.  The tables are asked for outside ASCII only. -/
def isLetter (c : Char) : Bool := if c.toNat ≤ 0x7F then c.isAlpha else alphabetic.contains c

/-- The numbers of group names. -/
def isNumber (c : Char) : Bool := if c.toNat ≤ 0x7F then c.isDigit else numeric.contains c

def beginsName (c : Char) : Bool := c = '_' || isLetter c

def continuesName (c : Char) : Bool :=
  c = '_' || c = '.' || c = '[' || c = ']' || isLetter c || isNumber c

/-- Reads the name of a group and the angle bracket that closes it. -/
def readGroupName (rest : List Char) : Except PatternError (String × List Char) :=
  let name := rest.takeWhile (· ≠ '>')
  match name, rest.dropWhile (· ≠ '>') with
  | first :: others, '>' :: rest =>
    if beginsName first && others.all continuesName then .ok (String.ofList name, rest)
    else .error .groupNameInvalid
  | _, _ => .error .groupNameInvalid

/-- What an opening parenthesis begins: a group, or a change of flags that is
complete in itself. -/
inductive Opening where
  | group (kind : GroupKind)
  | flags (changes : FlagChanges)

/-- Reads what follows an opening parenthesis. -/
def readOpening (cur : Cursor) : Except PatternError (Opening × Cursor) :=
  let named (rest : List Char) : Except PatternError (Opening × Cursor) := do
    let (name, rest) ← readGroupName rest
    if cur.names.any (·.1 = name) then .error (.groupNameRepeated name)
    else
      let index := cur.groups + 1
      .ok (.group (.capture index),
        { cur with rest := rest, groups := index, names := (name, index) :: cur.names })
  match skipIf cur.spaced cur.rest with
  | '?' :: '=' :: _ | '?' :: '!' :: _ | '?' :: '<' :: '=' :: _ | '?' :: '<' :: '!' :: _ =>
    .error .lookAround
  | '?' :: 'P' :: '<' :: rest => named rest
  | '?' :: '<' :: rest => named rest
  | '?' :: rest => do
    let (changes, rest) ← readFlags [] false false rest
    match rest with
    | ')' :: rest =>
      if changes.isEmpty then .error .repetitionOfNothing
      else
        .ok (.flags changes,
          { cur with rest := rest, spaced := spacedAfter cur.spaced changes })
    | rest =>
      .ok (.group (.flags changes),
        { cur with rest := rest.drop 1, spaced := spacedAfter cur.spaced changes })
  | rest =>
    let index := cur.groups + 1
    .ok (.group (.capture index), { cur with rest := rest, groups := index })

/-- Adds the decimal digits to a number that has been begun. -/
def readDigits (spaced inComment : Bool) (number : Option Nat) :
    List Char → Option Nat × List Char
  | [] => (number, [])
  | c :: rest =>
    if inComment then readDigits spaced (c ≠ '\n') number rest
    else if c.isDigit then
      readDigits spaced false (some (number.getD 0 * 10 + (c.toNat - '0'.toNat))) rest
    else if spaced && isBlank c then readDigits spaced false number rest
    else if spaced && c = '#' then readDigits spaced true number rest
    else (number, c :: rest)

/-- The greatest repetition count. -/
def countLimit : Nat := 0xFFFFFFFF

/-- Reads a repetition count, with blanks around it. -/
def readCount (spaced : Bool) (rest : List Char) : Option Nat × List Char :=
  let (number, rest) := readDigits spaced false none (rest.dropWhile isBlank)
  (number.filter (· ≤ countLimit), rest.dropWhile isBlank)

/-- Reads the bounds of a repetition after its opening brace. -/
def readBounds (spaced : Bool) (rest : List Char) :
    Except PatternError (Nat × Option Nat × List Char) :=
  match readCount spaced (skipIf spaced rest) with
  | (some least, '\x7d' :: rest) => .ok (least, some least, rest)
  | (some least, ',' :: rest) =>
    match skipIf spaced rest with
    | '\x7d' :: rest => .ok (least, none, rest)
    | rest =>
      match readCount spaced rest with
      | (some most, '\x7d' :: rest) =>
        if least ≤ most then .ok (least, some most, rest) else .error .repetitionCountInvalid
      | _ => .error .repetitionCountInvalid
  | _ => .error .repetitionCountInvalid

/-- A question mark after a repetition makes it prefer fewer turns. -/
def readGreed : List Char → Bool × List Char
  | '?' :: rest => (false, rest)
  | rest => (true, rest)

/-- Reads the rest of a pattern.  Every turn takes a character, so the number of
those that are left bounds the turns. -/
def readFrom : Nat → Level → List OpenGroup → Cursor → Except PatternError Written
  | 0, _, _, _ => .error .nestingTooDeep
  | n + 1, level, outer, cur =>
    let simple (least : Nat) (most : Option Nat) (rest : List Char) :
        Except PatternError Written := do
      let (greedy, rest) := readGreed rest
      let level ← level.repeatLast greedy least most
      readFrom n level outer { cur with rest := rest }
    match skipIf cur.spaced cur.rest with
    | [] =>
      if outer.isEmpty then .ok ⟨level.close, cur.groups, cur.names⟩ else .error .unclosedGroup
    | '(' :: rest => do
      match ← readOpening { cur with rest := rest } with
      | (.flags changes, after) => readFrom n (level.push (.flags changes)) outer after
      | (.group kind, after) => readFrom n .empty (⟨kind, level, cur.spaced⟩ :: outer) after
    | ')' :: rest =>
      match outer with
      | [] => .error .unopenedGroup
      | opened :: outer =>
        readFrom n (opened.around.push (.group opened.kind level.close)) outer
          { cur with rest := rest, spaced := opened.spaced }
    | '|' :: rest => readFrom n level.endBranch outer { cur with rest := rest }
    | '[' :: rest => do
      let (cls, rest) ← readBracket cur.spaced rest
      readFrom n (level.push (.charClass cls)) outer { cur with rest := rest }
    | '?' :: rest => simple 0 (some 1) rest
    | '*' :: rest => simple 0 none rest
    | '+' :: rest => simple 1 none rest
    | '\x7b' :: rest => do
      let (least, most, rest) ← readBounds cur.spaced rest
      simple least most (skipIf cur.spaced rest)
    | '\\' :: rest => do
      let (part, rest) ← readEscape cur.spaced rest
      readFrom n (level.push part) outer { cur with rest := rest }
    | '.' :: rest => readFrom n (level.push .dot) outer { cur with rest := rest }
    | '^' :: rest => readFrom n (level.push (.assertion .lineStart)) outer { cur with rest := rest }
    | '$' :: rest => readFrom n (level.push (.assertion .lineEnd)) outer { cur with rest := rest }
    | c :: rest => readFrom n (level.push (.literal ⟨c, false⟩)) outer { cur with rest := rest }

/-- Reads a whole pattern. -/
def Written.ofText (text : String) : Except PatternError Written := do
  let cs := text.toList
  let written ← readFrom (cs.length + 1) .empty [] ⟨cs, false, 0, []⟩
  if nestLimit < written.ast.depth then .error .nestingTooDeep else .ok written

end Emend.Pattern

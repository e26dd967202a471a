import Emend.Pattern.Ast
import Emend.Text.Hex

/-!
# Reading escapes

The reader works on the characters that are left.  Where blanks are ignored they
may stand between the signs of an escape, and a number sign begins a comment up to
the end of its line; `spaced` says whether this is so.
-/

namespace Emend.Pattern

open Emend.Unicode

def isBlank (c : Char) : Bool := whiteSpace.contains c

/-- Passes over blanks and comments. -/
def skipBlanks (inComment : Bool) : List Char → List Char
  | [] => []
  | c :: rest =>
    if inComment then skipBlanks (c ≠ '\n') rest
    else if isBlank c then skipBlanks false rest
    else if c = '#' then skipBlanks true rest
    else c :: rest

def skipIf (spaced : Bool) (cs : List Char) : List Char :=
  if spaced then skipBlanks false cs else cs

/-- The characters up to a closing brace, and what follows the brace. -/
def takeBraced (spaced inComment : Bool) (taken : List Char) :
    List Char → Option (List Char × List Char)
  | [] => none
  | c :: rest =>
    if inComment then takeBraced spaced (c ≠ '\n') taken rest
    else if c = '\x7d' then some (taken.reverse, rest)
    else if spaced && isBlank c then takeBraced spaced false taken rest
    else if spaced && c = '#' then takeBraced spaced true taken rest
    else takeBraced spaced false (c :: taken) rest

def hexNumber? (digits : List Char) : Option Nat :=
  if digits.isEmpty then none
  else digits.foldlM (fun n c => (Hex.digit? c).map (n * 16 + ·)) 0

/-- Reads a fixed number of hexadecimal digits. -/
def readHexDigits (spaced : Bool) (number : Nat) : Nat → List Char → Option (Nat × List Char)
  | 0, rest => some (number, rest)
  | _ + 1, [] => none
  | n + 1, c :: rest => do
    let digit ← Hex.digit? c
    readHexDigits spaced (number * 16 + digit) n (skipIf spaced rest)

/-- Reads the number of an escape that begins with `x`, `u` or `U`. -/
def readHex (spaced : Bool) (width : Nat) (rest : List Char) :
    Except PatternError (Literal × List Char) :=
  let found :=
    match skipIf spaced rest with
    | '\x7b' :: rest => do
      let (digits, rest) ← takeBraced spaced false [] rest
      let c ← Hex.charOfCode? (← hexNumber? digits)
      pure (⟨c, false⟩, skipIf spaced rest)
    | rest => do
      let (code, rest) ← readHexDigits spaced 0 width rest
      let c ← Hex.charOfCode? code
      pure (⟨c, width == 2⟩, rest)
  match found with
  | some result => .ok result
  | none => .error .codePointInvalid

/-- Splits at the first place where the separator stands. -/
def splitAt? (separator : List Char) : List Char → Option (List Char × List Char)
  | [] => none
  | c :: rest =>
    if separator.isPrefixOf (c :: rest) then some ([], (c :: rest).drop separator.length)
    else (splitAt? separator rest).map fun (before, after) => (c :: before, after)

/-- The name of a property and its value are parted by `!=`, `:` or `=`.  The first of
them asks for the characters that have another value. -/
def propertyQuery (text : List Char) : Bool × PropertyQuery :=
  let valued : List Char × List Char → PropertyQuery := fun (property, value) =>
    .valued (String.ofList property) (String.ofList value)
  match splitAt? ['!', '='] text with
  | some parted => (true, valued parted)
  | none =>
    match splitAt? [':'] text <|> splitAt? ['='] text with
    | some parted => (false, valued parted)
    | none => (false, .named (String.ofList text))

/-- Reads which property is asked for, and whether its value is to differ. -/
def readProperty (spaced : Bool) (rest : List Char) :
    Except PatternError (Bool × PropertyQuery × List Char) :=
  match skipIf spaced rest with
  | [] => .error .escapeUnfinished
  | '\x7b' :: rest =>
    match takeBraced spaced false [] rest with
    | none => .error .escapeUnfinished
    | some (name, rest) =>
      let (unequal, query) := propertyQuery name
      .ok (unequal, query, rest)
  | '\\' :: _ => .error .propertyUnknown
  | c :: rest => .ok (false, .named (String.singleton c), skipIf spaced rest)

/-- The signs that have a meaning of their own somewhere in a pattern. -/
def isMeta (c : Char) : Bool := c ∈ "\\.+*?()|[]\x7b\x7d^$#&-~".toList

/-- Any ASCII sign but letters, digits and angle brackets may be escaped. -/
def isEscapable (c : Char) : Bool :=
  isMeta c || (decide (c.toNat ≤ 0x7F) && !c.isAlphanum && c ≠ '<' && c ≠ '>')

/-- A word boundary may be followed by its kind in braces.  A brace that does not
begin with a letter or hyphen is left for a repetition count. -/
def readWordBoundary (spaced : Bool) (rest : List Char) :
    Except PatternError (Assertion × List Char) :=
  match rest with
  | '\x7b' :: inner =>
    match skipIf spaced inner with
    | [] => .error .wordBoundaryUnknown
    | c :: _ =>
      if !(c.isAlpha || c = '-') then .ok (.wordBoundary, rest)
      else
        match takeBraced spaced false [] inner with
        | none => .error .wordBoundaryUnknown
        | some (name, rest) =>
          match String.ofList name with
          | "start" => .ok (.wordStart, rest)
          | "end" => .ok (.wordEnd, rest)
          | "start-half" => .ok (.wordStartHalf, rest)
          | "end-half" => .ok (.wordEndHalf, rest)
          | _ => .error .wordBoundaryUnknown
  | rest => .ok (.wordBoundary, rest)

/-- Reads what follows a backslash. -/
def readEscape (spaced : Bool) : List Char → Except PatternError (Ast × List Char)
  | [] => .error .escapeUnfinished
  | c :: rest =>
    let literal (c : Char) : Except PatternError (Ast × List Char) :=
      .ok (.literal ⟨c, false⟩, rest)
    let letter (negated : Bool) (cls : LetterClass) : Except PatternError (Ast × List Char) :=
      .ok (.charClass (.letter negated cls), rest)
    let hex (width : Nat) : Except PatternError (Ast × List Char) := do
      let (c, rest) ← readHex spaced width rest
      pure (.literal c, rest)
    let property (negated : Bool) : Except PatternError (Ast × List Char) := do
      let (unequal, query, rest) ← readProperty spaced rest
      pure (.charClass (.property (negated != unequal) query), rest)
    if isEscapable c then literal c
    else
      match c with
      | 'x' => hex 2
      | 'u' => hex 4
      | 'U' => hex 8
      | 'p' => property false
      | 'P' => property true
      | 'd' => letter false .digit
      | 'D' => letter true .digit
      | 's' => letter false .space
      | 'S' => letter true .space
      | 'w' => letter false .word
      | 'W' => letter true .word
      | 'a' => literal '\x07'
      | 'f' => literal '\x0C'
      | 't' => literal '\t'
      | 'n' => literal '\n'
      | 'r' => literal '\r'
      | 'v' => literal '\x0B'
      | 'A' => .ok (.assertion .textStart, rest)
      | 'z' => .ok (.assertion .textEnd, rest)
      | 'B' => .ok (.assertion .notWordBoundary, rest)
      | '<' => .ok (.assertion .wordStart, rest)
      | '>' => .ok (.assertion .wordEnd, rest)
      | 'b' => do
        let (a, rest) ← readWordBoundary spaced rest
        pure (.assertion a, rest)
      | c => if c.isDigit then .error .backreference else .error (.escapeUnknown c)

end Emend.Pattern

import Emend.Text.Hex
import Emend.Toml.Blank

/-!
# Strings

A basic string stands between quotation marks and knows escapes; a literal string
stands between apostrophes and knows none.  Tripled marks let either run over
several lines: a line end right after the opening marks is left out, and up to two
marks may stand before the closing ones.
-/

namespace Emend.Toml

/-- The length of the hexadecimal number that an escape needs. -/
def escapeWidth? : Char → Option Nat
  | 'x' => some 2
  | 'u' => some 4
  | 'U' => some 8
  | _ => none

/-- What an escape of one letter stands for. -/
def escapeChar? : Char → Option Char
  | 'b' => some '\x08'
  | 't' => some '\t'
  | 'n' => some '\n'
  | 'f' => some '\x0C'
  | 'r' => some '\r'
  | 'e' => some '\x1B'
  | '"' => some '"'
  | '\\' => some '\\'
  | _ => none

/-- Where the reading of a basic string stands: among its characters, right after a
backslash, inside a hexadecimal number with some digits to come, or between a
backslash at a line's end and the next sign. -/
inductive BasicState where
  | plain
  | escape
  | number (width code : Nat)
  | joinBefore
  | joinAfter

/-- What the next sign of a string does: it may add a character, or close the string
after some marks that still belong to it, with further marks to be passed over. -/
inductive Step (σ : Type) where
  | go (state : σ) (added : Option Char)
  | close (kept passed : Nat)

/-- What a mark does.  In a string of several lines three marks close it, and of more
than three the first ones belong to it. -/
def markStep {σ : Type} (multiline : Bool) (mark : Char) (state : σ) (rest : List Char) :
    Step σ :=
  if !multiline then .close 0 0
  else
    match (rest.take 4).takeWhile (· = mark) with
    | [_, _] => .close 0 2
    | [_, _, _] => .close 1 3
    | [_, _, _, _] => .close 2 4
    | _ => .go state (some mark)

/-- A character other than marks and backslashes stands for itself where it is
allowed. -/
def plainStep {σ : Type} (multiline : Bool) (c : Char) (state : σ) (rest : List Char) :
    Option (Step σ) :=
  let lineEnd := multiline && (c = '\n' || (c = '\r' && rest.head? = some '\n'))
  if lineEnd || isPlain c then some (.go state (some c)) else none

def basicPlainStep (multiline : Bool) (c : Char) (rest : List Char) : Option (Step BasicState) :=
  if c = '"' then some (markStep multiline '"' .plain rest)
  else if c = '\\' then some (.go .escape none)
  else plainStep multiline c .plain rest

/-- After a backslash blanks and line ends are left out, if there is a line end. -/
def joinStep (c : Char) (rest : List Char) : Option (Step BasicState) :=
  if isBlank c then some (.go .joinBefore none)
  else if c = '\n' then some (.go .joinAfter none)
  else if c = '\r' ∧ rest.head? = some '\n' then some (.go .joinBefore none)
  else none

def escapeStep (multiline : Bool) (c : Char) (rest : List Char) : Option (Step BasicState) :=
  match escapeChar? c, escapeWidth? c with
  | some image, _ => some (.go .plain (some image))
  | none, some width => some (.go (.number width 0) none)
  | none, none => if multiline then joinStep c rest else none

def numberStep (width code : Nat) (c : Char) : Option (Step BasicState) := do
  let digit ← Hex.digit? c
  let code := code * 16 + digit
  if 1 < width then return .go (.number (width - 1) code) none
  else return .go .plain (some (← Hex.charOfCode? code))

def basicStep (multiline : Bool) (c : Char) (rest : List Char) :
    BasicState → Option (Step BasicState)
  | .plain => basicPlainStep multiline c rest
  | .escape => escapeStep multiline c rest
  | .number width code => numberStep width code c
  | .joinBefore => joinStep c rest
  | .joinAfter =>
    if isBlank c ∨ c = '\n' ∨ (c = '\r' ∧ rest.head? = some '\n') then
      some (.go .joinAfter none)
    else basicPlainStep multiline c rest

def literalStep (multiline : Bool) (c : Char) (rest : List Char) : Option (Step Unit) :=
  if c = '\'' then some (markStep multiline '\'' () rest) else plainStep multiline c () rest

/-- Reads a string up to its closing marks. -/
def readMarked {σ : Type} (step : Char → List Char → σ → Option (Step σ)) (mark : Char)
    (state : σ) (done : List Char) : List Char → Option (String × List Char)
  | [] => none
  | c :: rest =>
    match step c rest state with
    | none => none
    | some (.go state added) => readMarked step mark state (added.toList ++ done) rest
    | some (.close kept passed) =>
      some (String.ofList (done.reverse ++ List.replicate kept mark), rest.drop passed)

def readBasic (multiline : Bool) (cs : List Char) : Option (String × List Char) :=
  readMarked (basicStep multiline) '"' .plain [] cs

def readLiteral (multiline : Bool) (cs : List Char) : Option (String × List Char) :=
  readMarked (fun c rest _ => literalStep multiline c rest) '\'' () [] cs

/-- Leaves out a line end right after opening marks. -/
def dropLineEnd : List Char → List Char
  | '\n' :: rest => rest
  | '\r' :: '\n' :: rest => rest
  | rest => rest

/-- Reads a string of one line. -/
def readQuoted? : List Char → Option (String × List Char)
  | '"' :: rest => readBasic false rest
  | '\'' :: rest => readLiteral false rest
  | _ => none

/-- Reads a string of any kind. -/
def readString? : List Char → Option (String × List Char)
  | '"' :: '"' :: '"' :: rest => readBasic true (dropLineEnd rest)
  | '\'' :: '\'' :: '\'' :: rest => readLiteral true (dropLineEnd rest)
  | rest => readQuoted? rest

end Emend.Toml

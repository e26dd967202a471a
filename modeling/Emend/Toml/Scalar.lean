import Emend.Text.Hex
import Emend.Toml.Blank
import Emend.Toml.Value

/-!
# Numbers, truth values and times

A scalar without marks is one run of signs, in which blanks may stand, and it is
classified by how the run begins.  Numbers are not evaluated but keep the form in which
they are written.
-/

namespace Emend.Toml

/-! ## Runs -/

/-- A sign of its own outside of strings and comments. -/
def isDelimiter (c : Char) : Bool := c ∈ ".=,[]\x7b\x7d \t#\r\n".toList

def isMark (c : Char) : Bool := c = '"' || c = '\''

/-- A run goes on after blanks if something other than a string or a delimiter
follows; a dot is no end of a run. -/
def goesOn (cs : List Char) : Bool :=
  match skipBlanks cs with
  | [] => false
  | c :: _ => c = '.' || !(isDelimiter c || isMark c)

/-- Reads a run.  A mark belongs to it only right after a sign that is neither a dot
nor a blank. -/
def readRun (afterSign : Bool) : List Char → List Char × List Char
  | [] => ([], [])
  | c :: rest =>
    let belongs :=
      if isBlank c then goesOn rest
      else c = '.' || !(isDelimiter c || (isMark c && !afterSign))
    if belongs then
      let (run, rest) := readRun (!isDelimiter c) rest
      (c :: run, rest)
    else ([], c :: rest)

/-! ## Numbers -/

def isHexDigit (c : Char) : Bool := (Hex.digit? c).isSome

def unsigned : List Char → List Char
  | '+' :: rest => rest
  | '-' :: rest => rest
  | rest => rest

/-- An underscore has a digit on either side. -/
def underscoresInside (isDigit : Char → Bool) (cs : List Char) : Bool :=
  let parts := cs.splitOn '_'
  parts.dropLast.all (fun part => part.getLast?.any isDigit) &&
    parts.tail.all fun part => part.head?.any isDigit

/-- The digits of a base other than ten, by the letter that announces it. -/
def baseDigit? : Char → Option (Char → Bool)
  | 'x' => some isHexDigit
  | 'o' => some fun c => '0' ≤ c && c ≤ '7'
  | 'b' => some fun c => c = '0' || c = '1'
  | _ => none

/-- The digits of an integer in another base, which may be missing. -/
def isBased (isDigit : Char → Bool) (digits : List Char) : Bool :=
  digits.all (fun c => isDigit c || c = '_') && underscoresInside isHexDigit digits

def isDigitOrUnderscore (c : Char) : Bool := c.isDigit || c = '_'

/-- Passes over digits, of which there must be one. -/
def digits? (cs : List Char) : Option (List Char) :=
  if (cs.takeWhile isDigitOrUnderscore).any Char.isDigit then
    some (cs.dropWhile isDigitOrUnderscore)
  else none

def isExponent : List Char → Bool
  | [] => true
  | mark :: rest => (mark = 'e' || mark = 'E') && digits? (unsigned rest) == some []

/-- A whole number without leading zeros, and a fraction or an exponent or both. -/
def isFloat (cs : List Char) : Bool :=
  let whole := (cs.takeWhile isDigitOrUnderscore).filter Char.isDigit
  (whole.length ≤ 1 || cs.head? ≠ some '0') &&
    match digits? cs with
    | some ('.' :: rest) => (digits? rest).any isExponent
    | some rest => isExponent rest
    | none => false

/-! ## Times -/

def numberOf (digits : List Char) : Nat :=
  digits.foldl (fun n c => n * 10 + (Hex.digit? c).getD 0) 0

/-- A number of exactly two digits below a bound. -/
def twoDigits? (bound : Nat) : List Char → Option (List Char)
  | a :: b :: rest =>
    if a.isDigit ∧ b.isDigit ∧ numberOf [a, b] < bound then some rest else none
  | _ => none

def daysIn (year month : Nat) : Nat :=
  if month = 2 then
    if year % 4 = 0 ∧ (year % 100 ≠ 0 ∨ year % 400 = 0) then 29 else 28
  else if month ∈ [4, 6, 9, 11] then 30
  else 31

/-- Reads a calendar date. -/
def date? : List Char → Option (List Char)
  | a :: b :: c :: d :: '-' :: e :: f :: '-' :: g :: h :: rest =>
    if [a, b, c, d, e, f, g, h].all Char.isDigit then
      let month := numberOf [e, f]
      let day := numberOf [g, h]
      if 1 ≤ month ∧ month ≤ 12 ∧ 1 ≤ day ∧ day ≤ daysIn (numberOf [a, b, c, d]) month then
        some rest
      else none
    else none
  | _ => none

/-- Reads a time of day, in which the seconds may be left out. -/
def time? (cs : List Char) : Option (List Char) := do
  let rest ← twoDigits? 24 cs
  let rest ← if rest.head? = some ':' then twoDigits? 60 (rest.drop 1) else none
  match rest with
  | ':' :: rest =>
    let rest ← twoDigits? 61 rest
    match rest with
    | '.' :: fraction =>
      if (fraction.takeWhile Char.isDigit).isEmpty then none
      else some (fraction.dropWhile Char.isDigit)
    | rest => some rest
  | rest => some rest

/-- A distance from universal time. -/
def isOffset : List Char → Bool
  | [] => true
  | ['Z'] | ['z'] => true
  | sign :: rest =>
    (sign = '+' || sign = '-') &&
      match twoDigits? 24 rest with
      | some (':' :: rest) => twoDigits? 60 rest == some []
      | _ => false

/-- A date, a time, or both, and then perhaps an offset. -/
def isMoment (cs : List Char) : Bool :=
  match date? cs with
  | some [] => true
  | some (mark :: rest) =>
    (mark = 'T' || mark = 't' || mark = ' ') &&
      match time? rest with
      | some offset => isOffset offset
      | none => false
  | none => time? cs == some []

/-! ## Scalars -/

/-- Classifies a run that begins with a digit or a sign.  What follows the first digits
tells what it is.  After digits and an underscore the rest of an integer is not looked
at beyond its underscores. -/
def number? (run : List Char) : Option Value :=
  let text := String.ofList run
  let digits := (unsigned run).takeWhile Char.isDigit
  let rest := (unsigned run).dropWhile Char.isDigit
  match rest with
  | [] =>
    if digits = ['0'] ∨ digits.head?.any (· ≠ '0') then some (.integer text) else none
  | first :: _ =>
    if first = '-' ∨ first = ':' then
      if isMoment run then some (.moment text) else none
    else if rest.contains ' ' then none
    else if rest.any (· ∈ ".eE".toList) then
      if isFloat (unsigned run) && underscoresInside Char.isDigit run then some (.float text)
      else none
    else if first = '_' ∧ digits.head? ≠ some '0' ∧ underscoresInside isHexDigit run then
      some (.integer text)
    else none

def scalar? (run : List Char) : Option Value :=
  let based? : Option (Option Value) :=
    match run with
    | '0' :: letter :: digits =>
      (baseDigit? letter).map fun isDigit =>
        if isBased isDigit digits then some (.integer (String.ofList run)) else none
    | _ => none
  if run = "true".toList then some (.boolean true)
  else if run = "false".toList then some (.boolean false)
  else if unsigned run = "inf".toList ∨ unsigned run = "nan".toList then
    some (.float (String.ofList run))
  else based?.getD (number? run)

/-- Reads a scalar without marks. -/
def readScalar? (cs : List Char) : Option (Value × List Char) :=
  let (run, rest) := readRun false cs
  (scalar? run).map fun v => (v, rest)

end Emend.Toml

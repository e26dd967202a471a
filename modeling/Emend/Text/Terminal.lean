/-!
# Text for a terminal

What a message quotes is shown without anything that would steer a terminal: control
characters other than white space, and the sequences that an escape character begins.
A sequence ends with a letter, or it holds a text that a closing character ends.  White
space inside a sequence of the first kind is shown, and what follows it too, up to the
next control character, where the sequence goes on.
-/

namespace Emend.Terminal

/-- Where a character stands with respect to sequences. -/
inductive Place where
  | outside
  | afterEscape
  /-- After an escape character and signs that wait for the last one. -/
  | afterSigns
  | parameters
  /-- Among the parameters of a sequence that holds a text. -/
  | textParameters
  | text
  /-- In a text that a bell ends too. -/
  | bellText
  deriving DecidableEq

def escape : Char := '\x1B'

/-- The white space among the control characters. -/
def isControlBlank (c : Char) : Bool := c ∈ "\t\n\x0C\r".toList

def isControl (c : Char) : Bool := c < ' ' || c = '\x7f'

/-- The characters that are shown outside of sequences. -/
def isShown (c : Char) : Bool := !isControl c || isControlBlank c

namespace Place

/-- A character that is shown where it stands. -/
def shows (place : Place) (c : Char) : Bool :=
  match place with
  | outside => isShown c
  | afterEscape | afterSigns | parameters => isControlBlank c
  | textParameters | text | bellText => false

/-- The place after a printable ASCII character that is not shown. -/
def afterSign (c : Char) : Place → Place
  | afterEscape =>
    if c ≤ '/' then afterSigns
    else
      match c with
      | '[' => parameters
      | ']' => bellText
      | 'P' => textParameters
      | 'X' | '^' | '_' => text
      | _ => outside
  | afterSigns => if c ≤ '/' then afterSigns else outside
  | parameters => if '@' ≤ c then outside else parameters
  | textParameters => if '@' ≤ c then text else textParameters
  | place => place

/-- The place after a character that is not shown.  The byte 9C ends a text, also
where it is part of a character. -/
def after (c : Char) (place : Place) : Place :=
  if c = escape then afterEscape
  else if c = '\x18' ∨ c = '\x1A' then outside
  else if isControl c then
    if place = bellText ∧ c = '\x07' then outside else place
  else if c.toNat ≤ 0x7F then place.afterSign c
  else if place = text ∧ 0x9C ∈ String.utf8EncodeChar c then outside
  else place

end Place

/-- What is shown of characters from a place on, where a row of shown characters may go
on. -/
def shownFrom (place : Place) (goesOn : Bool) : List Char → List Char
  | [] => []
  | c :: rest =>
    if place.shows c || (goesOn && isShown c) then
      c :: shownFrom (if c.toNat ≤ 0x7F then place else .outside) true rest
    else shownFrom (place.after c) false rest

/-- A text without control sequences. -/
def plain (s : String) : String := String.ofList (shownFrom .outside false s.toList)

end Emend.Terminal

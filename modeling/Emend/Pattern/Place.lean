import Emend.Pattern.Expr
import Emend.Unicode.CharClass

/-!
# Places in a text

A place lies before, between or after the characters of a text and is named by the
number of characters before it.  A condition on a place depends on the characters
on its two sides, and for line ends on one more.
-/

namespace Emend.Pattern

open Emend.Unicode

abbrev Text := Array Char

/-- The characters that make up words. -/
def isWord (unicode : Bool) (c : Char) : Bool :=
  if unicode then wordCharacter.contains c
  else c.isAlphanum || c = '_'

def charBefore? (text : Text) (place : Nat) : Option Char :=
  if place = 0 then none else text[place - 1]?

def charAfter? (text : Text) (place : Nat) : Option Char := text[place]?

def WordEdge.holds (before after : Bool) : WordEdge → Bool
  | .boundary => before != after
  | .notBoundary => before == after
  | .start => !before && after
  | .stop => before && !after
  | .startHalf => !before
  | .stopHalf => !after

/-- A line ends at a line feed, and begins after one. -/
def Look.holds (text : Text) (place : Nat) : Look → Bool
  | .textStart => place = 0
  | .textEnd => place = text.size
  | .lineStart => place = 0 || charBefore? text place == some '\n'
  | .lineEnd => place = text.size || charAfter? text place == some '\n'
  | .crlfLineStart =>
    place = 0 || charBefore? text place == some '\n' ||
      (charBefore? text place == some '\r' && charAfter? text place != some '\n')
  | .crlfLineEnd =>
    place = text.size || charAfter? text place == some '\r' ||
      (charAfter? text place == some '\n' && charBefore? text place != some '\r')
  | .word unicode edge =>
    edge.holds ((charBefore? text place).any (isWord unicode))
      ((charAfter? text place).any (isWord unicode))

end Emend.Pattern

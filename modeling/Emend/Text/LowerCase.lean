import Emend.Unicode.CharClass
import Emend.Unicode.LowerCaseTable

/-!
# Lower case

The small form of a text is found character by character, with two rules beside
the table: the capital dotted I becomes a small i and a combining dot, and a
capital sigma at the end of a word becomes the final sigma.  A word here is what
the letters around the sigma show, with case-ignorable characters passed over.
-/

namespace Emend.LowerCase

open Emend.Unicode

def charImage (c : Char) : List Char :=
  if c = 'İ' then ['i', '\u0307']
  else
    match applyRuns? lowerCaseRuns c.toNat with
    | some code => [Char.ofNat code]
    | none => [c]

/-- The nearest character that is not case-ignorable is a cased letter. -/
def meetsCased (cs : List Char) : Bool :=
  match cs.dropWhile caseIgnorable.contains with
  | [] => false
  | c :: _ => casedLetter.contains c

/-- Lower-cases the characters that follow those of `before`, which stand nearest
first. -/
def imageAfter (before : List Char) : List Char → List Char
  | [] => []
  | c :: rest =>
    let image :=
      if c = 'Σ' then [if meetsCased before && !meetsCased rest then 'ς' else 'σ']
      else charImage c
    image ++ imageAfter (c :: before) rest

def ofChars (cs : List Char) : List Char := imageAfter [] cs

def ofString (text : String) : String := String.ofList (ofChars text.toList)

end Emend.LowerCase

/-!
# Blanks, comments and line ends

A line ends in a line feed, which a carriage return may precede; a carriage return
stands nowhere else.  Besides line ends and tabs a document holds no control
characters, not even in comments.
-/

namespace Emend.Toml

def isBlank (c : Char) : Bool := c = ' ' || c = '\t'

/-- The characters that may stand in a comment or a literal string. -/
def isPlain (c : Char) : Bool := c = '\t' || (0x20 ≤ c.toNat && c ≠ '\x7f')

def skipBlanks (cs : List Char) : List Char := cs.dropWhile isBlank

/-- Passes over blanks, comments and line ends. -/
def skipLines (inComment : Bool) : List Char → Option (List Char)
  | [] => some []
  | c :: rest =>
    if c = '\n' then skipLines false rest
    else if c = '\r' then
      if rest.head? = some '\n' then skipLines false rest else none
    else if inComment then
      if isPlain c then skipLines true rest else none
    else if isBlank c then skipLines false rest
    else if c = '#' then skipLines true rest
    else some (c :: rest)

/-- Passes over the end of a line, before which only blanks and a comment may stand. -/
def endLine (inComment : Bool) : List Char → Option (List Char)
  | [] => some []
  | c :: rest =>
    if c = '\n' then some rest
    else if c = '\r' then
      if rest.head? = some '\n' then some (rest.drop 1) else none
    else if inComment then
      if isPlain c then endLine true rest else none
    else if isBlank c then endLine false rest
    else if c = '#' then endLine true rest
    else none

end Emend.Toml

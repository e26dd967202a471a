import Emend.Toml.Item
import Emend.Toml.Quoted
import Emend.Toml.Scalar

/-!
# Reading documents

A document is a list of lines, each of which gives a key its value or opens a table.
Reading fails if a line has another form or the lines together do not describe one
table.
-/

namespace Emend.Toml

def isBareKeySign (c : Char) : Bool := c.isAlphanum || c = '_' || c = '-'

/-- Reads one key without dots. -/
def readSimpleKey (cs : List Char) : Option (String × List Char) :=
  match readQuoted? cs with
  | some found => some found
  | none =>
    let key := cs.takeWhile isBareKeySign
    if key.isEmpty then none else some (String.ofList key, cs.dropWhile isBareKeySign)

/-- Reads a key with dots, of no more parts than a number. -/
def readKeyFrom : Nat → List Char → Option (List String × List Char)
  | 0, _ => none
  | n + 1, cs => do
    let (key, rest) ← readSimpleKey (skipBlanks cs)
    match skipBlanks rest with
    | '.' :: rest =>
      let (more, rest) ← readKeyFrom n rest
      return (key :: more, rest)
    | rest => return ([key], rest)

/-- The deepest nesting of arrays and tables inside values, and of tables that one key
makes by dots. -/
def depthLimit : Nat := 80

def readKey (cs : List Char) : Option (List String × List Char) := readKeyFrom depthLimit cs

/-- Reads a key and its value, with what `skip` passes over around the sign between
them. -/
def readPair (skip : List Char → Option (List Char))
    (value : List Char → Option (Value × List Char)) (cs : List Char) :
    Option ((List String × Value) × List Char) := do
  let (key, rest) ← readKey cs
  match ← skip rest with
  | '=' :: rest =>
    let (v, rest) ← value (← skip rest)
    return ((key, v), rest)
  | _ => none

/-- Reads items up to a closing sign, with commas between them and perhaps after the
last one. -/
def readItems {α : Type} (item : List Char → Option (α × List Char)) (close : Char) :
    Nat → List Char → Option (List α × List Char)
  | 0, _ => none
  | n + 1, cs => do
    let cs ← skipLines false cs
    if cs.head? = some close then return ([], cs.drop 1)
    else
      let (first, rest) ← item cs
      match ← skipLines false rest with
      | ',' :: rest =>
        let (more, rest) ← readItems item close n rest
        return (first :: more, rest)
      | c :: rest => if c = close then return ([first], rest) else none
      | [] => none

/-- Reads a value with arrays and tables inside down to a depth.  None of them has more
items than `limit`, which is no restriction if there are no more characters. -/
def readValue (limit : Nat) : Nat → List Char → Option (Value × List Char)
  | depth + 1, '[' :: rest => do
    let (items, rest) ← readItems (readValue limit depth) ']' limit rest
    return (.array items, rest)
  | depth + 1, '\x7b' :: rest => do
    let pair := readPair (skipLines false) (readValue limit depth)
    let (pairs, rest) ← readItems pair '\x7d' limit rest
    let items ← pairs.foldlM (fun items (key, v) => Items.addValue v key items) []
    return (.table (Items.toTable items), rest)
  | _, cs =>
    match readString? cs with
    | some (text, rest) => some (.string text, rest)
    | none => if cs.head? = some '"' ∨ cs.head? = some '\'' then none else readScalar? cs

/-- What one line of a document says. -/
inductive Line where
  | pair (key : List String) (value : Value)
  | table (path : List String)
  | element (path : List String)

/-- Reads a line, with no more items in a value than `limit`. -/
def readLine (limit : Nat) : List Char → Option (Line × List Char)
  | '[' :: '[' :: rest => do
    let (path, rest) ← readKey rest
    match rest with
    | ']' :: ']' :: rest => return (.element path, rest)
    | _ => none
  | '[' :: rest => do
    let (path, rest) ← readKey rest
    match rest with
    | ']' :: rest => return (.table path, rest)
    | _ => none
  | cs => do
    let ((key, value), rest) ← readPair (fun rest => some (skipBlanks rest)) (readValue limit depthLimit) cs
    return (.pair key value, rest)

/-- Reads the lines of a document.  Every turn takes a sign. -/
def readLines (limit : Nat) : Nat → List Char → Option (List Line)
  | 0, _ => none
  | n + 1, cs => do
    match ← skipLines false cs with
    | [] => return []
    | cs =>
      let (line, rest) ← readLine limit cs
      let rest ← endLine false rest
      return line :: (← readLines limit n rest)

/-- Adds a line to a document whose last header has opened the table at a path. -/
def addLine (state : List String × Items) : Line → Option (List String × Items)
  | .pair key value => do
    return (state.1, ← Items.within (Items.addValue value key) state.1 state.2)
  | .table path => do return (path, ← Items.openTable path state.2)
  | .element path => do return (path, ← Items.openElement path state.2)

/-- The table that lines describe together. -/
def Table.ofLines? (lines : List Line) : Option Table := do
  let (_, items) ← lines.foldlM addLine ([], [])
  return Items.toTable items

/-- Reads a document.  A byte order mark may stand before it. -/
def Table.ofText? (text : String) : Option Table := do
  let cs :=
    match text.toList with
    | '\uFEFF' :: rest => rest
    | cs => cs
  let limit := cs.length + 1
  Table.ofLines? (← readLines limit limit cs)

end Emend.Toml

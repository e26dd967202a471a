import Emend.OsError
import Emend.Tree

/-!
# Files as a process sees them

A process reaches a tree through paths, from the root or from its working directory.
Symbolic links are followed on the way, up to a fixed number of them.  A path that
ends in a slash leads to a directory only, and so does a path on which anything
follows.
-/

namespace Emend

/-- A tree with the working directory of a process, and the size past which no file
may grow. -/
structure Files where
  tree : Tree
  here : Location
  sizeLimit : Option Nat

/-- Where a path leads: to an entry, or to a free name in a directory. -/
inductive Spot where
  | found (location : Location) (entry : Entry)
  | free (location : Location)

/-- The kind of an entry, as a directory lists it. -/
inductive EntryKind where
  | file
  | directory
  | link
  deriving DecidableEq

def Entry.kind : Entry → EntryKind
  | .file _ => .file
  | .directory => .directory
  | .link _ => .link

namespace Files

/-- The greatest number of links that one path may pass through. -/
def linkLimit : Nat := 40

/-- The greatest length of a name. -/
def nameLimit : Nat := 255

/-- A path must be shorter than this. -/
def pathLimit : Nat := 4096

/-- The steps that a path asks for.  An empty step stands last for a path that ends
in a slash. -/
def steps (path : Path) : List Name :=
  let names := (Path.split path).filter (· ≠ [])
  if path.getLast? = some Path.slash then names ++ [[]] else names

/-- How a call treats the last step of a path. -/
structure Manner where
  /-- A link at the end is followed. -/
  follow : Bool
  /-- A file may be made, so a path to a name may not end in a slash. -/
  create : Bool

/-- Takes the steps of a path from a directory. -/
def walk (tree : Tree) (manner : Manner) (links : Nat) (directory : Location) :
    List Name → Except OsError Spot
  | [] => .ok (.found directory .directory)
  | name :: rest =>
    if name = [] ∨ name = [Path.dot] then walk tree manner links directory rest
    else if name = [Path.dot, Path.dot] then walk tree manner links directory.dropLast rest
    else if manner.create ∧ rest ≠ [] ∧ rest.all (· = []) then .error .isDirectory
    else if nameLimit < name.length then .error .nameTooLong
    else
      let location := directory ++ [name]
      match tree.entry? location with
      | none => if rest = [] then .ok (.free location) else .error .notFound
      | some .directory => walk tree manner links location rest
      | some (.file content) =>
        if rest = [] then .ok (.found location (.file content)) else .error .notDirectory
      | some (.link target) =>
        if rest = [] ∧ !manner.follow then .ok (.found location (.link target))
        else
          match links with
          | 0 => .error .tooManyLinks
          | links + 1 =>
            walk tree manner links (if target.isAbsolute then [] else directory)
              (steps target ++ rest)
termination_by rest => (links, rest.length)

/-- Where a path leads. -/
def locate (files : Files) (manner : Manner) (path : Path) : Except OsError Spot :=
  if path.contains 0 then .error .nulInName
  else if path = [] then .error .notFound
  else if pathLimit ≤ path.length then .error .nameTooLong
  else
    walk files.tree manner linkLimit (if path.isAbsolute then [] else files.here) (steps path)

/-- The entry that a path leads to. -/
def entry (files : Files) (follow : Bool) (path : Path) : Except OsError Entry := do
  match ← files.locate ⟨follow, false⟩ path with
  | .found _ entry => .ok entry
  | .free _ => .error .notFound

/-- The kind of what a path leads to, with a link at the end followed. -/
def kind (files : Files) (path : Path) : Except OsError EntryKind :=
  (files.entry true path).map Entry.kind

/-- The kind of what a path leads to, where a link at the end counts itself. -/
def linkKind (files : Files) (path : Path) : Except OsError EntryKind :=
  (files.entry false path).map Entry.kind

def isFile (files : Files) (path : Path) : Bool := files.kind path matches .ok .file

def isDirectory (files : Files) (path : Path) : Bool := files.kind path matches .ok .directory

def isThere (files : Files) (path : Path) : Bool := files.kind path matches .ok _

def read (files : Files) (path : Path) : Except OsError Bytes := do
  match ← files.entry true path with
  | .file content => .ok content
  | _ => .error .isDirectory

/-- Names in the order of their bytes. -/
def nameLe : Name → Name → Bool
  | [], _ => true
  | _ :: _, [] => false
  | a :: as, b :: bs => a < b || (a == b && nameLe as bs)

/-- The entries of a directory with their kinds, in the order of their names. -/
def list (files : Files) (path : Path) : Except OsError (List (Name × EntryKind)) := do
  match ← files.locate ⟨true, false⟩ path with
  | .found location .directory =>
    .ok <| ((files.tree.children location).map fun (name, entry) =>
      (name, entry.kind)).mergeSort fun a b => nameLe a.1 b.1
  | .found _ _ => .error .notDirectory
  | .free _ => .error .notFound

/-- The part of a content that the size limit lets through. -/
def kept (files : Files) (content : Bytes) : Bytes :=
  match files.sizeLimit with
  | some limit => content.take limit
  | none => content

/-- Puts a file at a location. -/
def store (files : Files) (location : Location) (content : Bytes) : Files :=
  { files with tree := files.tree.put location (.file content) }

/-- Puts content in the file at a location, or makes the file.  What goes past the size
limit is not written, and the write fails. -/
def fill (files : Files) (location : Location) (content : Bytes) : Except OsError Unit × Files :=
  let kept := files.kept content
  let outcome := if kept.length < content.length then .error .fileTooLarge else .ok ()
  (outcome, files.store location kept)

/-- Replaces the content of the file that a path leads to, or makes the file. -/
def write (files : Files) (path : Path) (content : Bytes) : Except OsError Unit × Files :=
  match files.locate ⟨true, true⟩ path with
  | .error e => (.error e, files)
  | .ok (.free location) => files.fill location content
  | .ok (.found location (.file _)) => files.fill location content
  | .ok (.found _ _) => (.error .isDirectory, files)

end Files

end Emend

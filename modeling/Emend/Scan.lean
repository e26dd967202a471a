import Emend.Config
import Emend.Files
import Emend.Text.LowerCase

/-!
# Scanning

A scan goes through the directories below a root in the order of names and reports
the files whose names end in a wanted extension, and the places that cannot be
read.  Links to directories are not entered, but for the root itself; a link to a
file counts as a file.
-/

namespace Emend

/-- What a scan looks for, and where. -/
structure Scanner where
  root : Path
  suffixes : List (List Char)

/-- What a scan reports. -/
inductive Scanned where
  | file (path : Path)
  | skipped (path : Option Path) (reason : String)
  deriving DecidableEq

/-- A place that a scan comes to: its root, or an entry that a directory listed. -/
inductive Visit where
  | root (path : Path)
  | entry (path : Path) (kind : EntryKind)

namespace Scanner

def ofExtensions (root : Path) (extensions : List String) : Scanner :=
  ⟨root, extensions.map fun e => '.' :: LowerCase.ofChars (bareExtension e)⟩

def ofConfig (config : Config) : Scanner := ofExtensions config.root config.extensions

/-- The last name of a path ends in a wanted extension, without regard to case. -/
def wants (scanner : Scanner) (path : Path) : Bool :=
  match path.fileName? with
  | none => false
  | some name =>
    let lower := LowerCase.ofChars (Path.display name).toList
    scanner.suffixes.any fun suffix => suffix.isSuffixOf lower

def skip (path : Path) (cause : OsError) : Scanned :=
  .skipped (some path) ("IO error for operation on " ++ path.display ++ ": " ++ cause.message)

/-- The entries below a directory. -/
def enter (files : Files) (path : Path) : List Scanned × List Visit :=
  match files.list path with
  | .error e => ([skip path e], [])
  | .ok entries => ([], entries.map fun (name, kind) => .entry (path.join name) kind)

/-- What a scan reports at a place, or the places it goes on to. -/
def look (scanner : Scanner) (files : Files) (path : Path) : EntryKind → List Scanned × List Visit
  | .directory => enter files path
  | .file => (if scanner.wants path then [.file path] else [], [])
  | .link => (if files.isFile path && scanner.wants path then [.file path] else [], [])

/-- A root that is a link to a directory is entered. -/
def expand (scanner : Scanner) (files : Files) : Visit → List Scanned × List Visit
  | .entry path kind => scanner.look files path kind
  | .root path =>
    match files.linkKind path with
    | .error e => ([skip path e], [])
    | .ok .link =>
      match files.kind path with
      | .error e => ([skip path e], [])
      | .ok .directory => enter files path
      | .ok _ => scanner.look files path .link
    | .ok kind => scanner.look files path kind

/-- What a scan reports at a place and below it, down to a depth. -/
def report (scanner : Scanner) (files : Files) : Nat → Visit → List Scanned
  | 0, _ => []
  | depth + 1, visit =>
    let (found, below) := scanner.expand files visit
    found ++ below.flatMap (scanner.report files depth)

/-- A scan of files that nothing changes meanwhile.  Every directory has a longer
path than the one it is in, and a path of the greatest length cannot be read, so
that length bounds the depth. -/
def scan (scanner : Scanner) (files : Files) : List Scanned :=
  scanner.report files Files.pathLimit (.root scanner.root)

end Scanner

end Emend

import Emend.Config.Document
import Emend.Files

/-!
# Finding the configuration

A configuration comes from a file that is named, else from the local file of the
working directory, and else is built in.  A named file must be there.
-/

namespace Emend

inductive ConfigSource where
  | file (path : Path)
  | builtIn
  deriving DecidableEq

def ConfigSource.display : ConfigSource → String
  | file path => path.display
  | builtIn => "built-in defaults"

structure LoadedConfig where
  config : Config
  source : ConfigSource

namespace Config

/-- The name of the local configuration file. -/
def fileName : Path := Path.ofString ".repatch.toml"

def read (files : Files) (path : Path) : Except Error Config :=
  match files.read path with
  | .error e => .error (.configUnreadable path (.os e))
  | .ok bytes =>
    match Utf8.decode bytes with
    | .error _ => .error (.configUnreadable path .notText)
    | .ok text => ofText path text

def load (files : Files) (named : Option Path) (directory : Path) :
    Except Error LoadedConfig :=
  match named with
  | some path => do return ⟨← read files path, .file path⟩
  | none =>
    let localFile := directory.join fileName
    if files.isFile localFile then do return ⟨← read files localFile, .file localFile⟩
    else .ok ⟨builtIn, .builtIn⟩

end Config

end Emend

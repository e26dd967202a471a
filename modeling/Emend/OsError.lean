/-!
# Refusals of the operating system

Every refusal that a call on files can meet, with its text and number.
-/

namespace Emend

inductive OsError where
  | notFound
  | notDirectory
  | isDirectory
  | fileTooLarge
  | nameTooLong
  | tooManyLinks
  | nulInName
  deriving DecidableEq

namespace OsError

def message : OsError → String
  | notFound => "No such file or directory (os error 2)"
  | notDirectory => "Not a directory (os error 20)"
  | isDirectory => "Is a directory (os error 21)"
  | fileTooLarge => "File too large (os error 27)"
  | nameTooLong => "File name too long (os error 36)"
  | tooManyLinks => "Too many levels of symbolic links (os error 40)"
  | nulInName => "file name contained an unexpected NUL byte"

end OsError

end Emend

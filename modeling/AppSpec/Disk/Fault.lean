/-!
# Faults of the file system

Why a file or directory could not be read or written, with the number that the system gives it.
-/

namespace AppSpec

inductive DiskFault where
  | notFound
  | badFormat
  | denied
  | exists
  | notADirectory
  | isADirectory
  | notText
  | badName
deriving DecidableEq, Repr, Inhabited

def DiskFault.text : DiskFault → String
  | .notFound => "No such file or directory (os error 2)"
  | .badFormat => "Exec format error (os error 8)"
  | .denied => "Permission denied (os error 13)"
  | .exists => "File exists (os error 17)"
  | .notADirectory => "Not a directory (os error 20)"
  | .isADirectory => "Is a directory (os error 21)"
  | .notText => "stream did not contain valid UTF-8"
  | .badName => "file name contained an unexpected NUL byte"

end AppSpec

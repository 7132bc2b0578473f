/-
The reasons for which the file system refuses an operation, with the texts in
which they are reported. A system has more such reasons; those that come with links,
permissions or failing devices have no place on a disk that is a tree of directories
and files.
-/

namespace Foldback

/-- Why a file operation failed. -/
inductive FileError where
  /-- The path names nothing. -/
  | notFound
  /-- The path goes through a file, or asks for a directory where a file is. -/
  | notDirectory
  /-- The path names a directory where a file is needed. -/
  | isDirectory
  /-- Something has the name already. -/
  | alreadyExists
  /-- The path or one of its names is longer than the system allows. -/
  | nameTooLong
  /-- The bytes of the file are not UTF-8 text. -/
  | notText
  /-- The path holds the NUL character. -/
  | nulInPath
  deriving DecidableEq, Repr

/-- The report of a refusal. -/
def FileError.message : FileError → String
  | .notFound => "No such file or directory (os error 2)"
  | .notDirectory => "Not a directory (os error 20)"
  | .isDirectory => "Is a directory (os error 21)"
  | .alreadyExists => "File exists (os error 17)"
  | .nameTooLong => "File name too long (os error 36)"
  | .notText => "stream did not contain valid UTF-8"
  | .nulInPath => "file name contained an unexpected NUL byte"

end Foldback

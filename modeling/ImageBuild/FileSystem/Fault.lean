/-!
# Faults of file operations

What can go wrong when files are looked at or changed, with the words of the operating system.
-/

namespace ImageBuild

/-- Why a file operation fails. -/
inductive FileFault
  | notFound
  | permissionDenied
  /-- A file that is to be run is neither a program nor names an interpreter. -/
  | noProgram
  | exists
  | notADirectory
  | isADirectory
  | nameTooLong
  | tooManyLinks
  /-- A path holds the character zero. -/
  | zeroInPath
  /-- A file that has to be text is none. -/
  | notText
  /-- Another reason. -/
  | other (reason : String)
  deriving DecidableEq, Repr

/-- The words and the number of a fault. -/
def FileFault.message : FileFault → String
  | .notFound => "No such file or directory (os error 2)"
  | .permissionDenied => "Permission denied (os error 13)"
  | .noProgram => "Exec format error (os error 8)"
  | .exists => "File exists (os error 17)"
  | .notADirectory => "Not a directory (os error 20)"
  | .isADirectory => "Is a directory (os error 21)"
  | .nameTooLong => "File name too long (os error 36)"
  | .tooManyLinks => "Too many levels of symbolic links (os error 40)"
  | .zeroInPath => "file name contained an unexpected NUL byte"
  | .notText => "stream did not contain valid UTF-8"
  | .other reason => reason

/-- The words of a fault without its number. -/
def FileFault.reason (fault : FileFault) : String :=
  (fault.message.splitOn " (os error").headD ""

end ImageBuild

/-
Access to files: what a run asks of the files around it. A run can read a
file, make sure that a directory is there, and write a file; each of them
can be refused. Where the files are kept is left open, so that a run can
work on the files of the machine as well as on a tree of them in memory.
-/
import Rowsmith.Path

namespace Rowsmith.Files

/-- Why an access is refused. -/
inductive FileError
  | missing
  | exists
  | notDirectory
  | isDirectory
  | nameTooLong
  -- A path contains a character that no path can have.
  | zeroInPath
  -- The content is not text.
  | notText
  -- A reason given by the system.
  | other (reason : String)
deriving DecidableEq, Repr

def FileError.message : FileError → String
  | .missing => "No such file or directory (os error 2)"
  | .exists => "File exists (os error 17)"
  | .notDirectory => "Not a directory (os error 20)"
  | .isDirectory => "Is a directory (os error 21)"
  | .nameTooLong => "File name too long (os error 36)"
  | .zeroInPath => "file name contained an unexpected NUL byte"
  | .notText => "stream did not contain valid UTF-8"
  | .other reason => reason

/-- The operations on files. -/
structure FileAccess (m : Type → Type) where
  -- The text of a file.
  read : Path → m (Except FileError String)
  -- Makes a directory and those above it, unless they are there.
  makeDirectories : Path → m (Except FileError Unit)
  -- Gives a file a content, creating it if it is not there.
  write : Path → String → m (Except FileError Unit)

end Rowsmith.Files

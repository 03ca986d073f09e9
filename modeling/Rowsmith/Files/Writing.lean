/-
Writing generated files. A file that holds its text already is left alone,
so that nothing that depends on it is built again; all others are written,
and their directories made. The first refusal ends the writing, and what
was written before it stays.
-/
import Rowsmith.Emit.Code
import Rowsmith.Files.Access

namespace Rowsmith.Files

/-- Why the writing ended early. -/
inductive WriteError
  | directory (path : Path) (reason : FileError)
  | file (path : Path) (reason : FileError)
deriving DecidableEq, Repr

/-- What became of the files. -/
structure WriteSummary where
  written : List Path
  unchanged : List Path
deriving DecidableEq, Repr

namespace WriteSummary

def empty : WriteSummary := ⟨[], []⟩

/-- Notes what became of one more file. -/
def add (s : WriteSummary) (path : Path) (wasWritten : Bool) : WriteSummary :=
  if wasWritten then { s with written := s.written ++ [path] }
  else { s with unchanged := s.unchanged ++ [path] }

end WriteSummary

variable {m : Type → Type} [Monad m]

/-- A file can be read and holds a text. -/
def holds (access : FileAccess m) (path : Path) (content : String) : m Bool := do
  match ← access.read path with
  | .ok found => return found == content
  | .error _ => return false

/-- Writes a file unless it holds its text already, and tells whether it
did. -/
def writeFile (access : FileAccess m) (path : Path) (content : String) :
    ExceptT WriteError m Bool := do
  if ← (holds access path content : m Bool) then return false
  if let some parent := path.parent? then
    if let .error e ← (access.makeDirectories parent : m _) then throw (.directory parent e)
  if let .error e ← (access.write path content : m _) then throw (.file path e)
  return true

/-- Writes files below a directory. -/
def writeFiles (access : FileAccess m) (outDir : Path) (files : List Emit.SourceFile) :
    ExceptT WriteError m WriteSummary :=
  files.foldlM (fun summary file => do
    let path := outDir.join file.path
    return summary.add path (← writeFile access path file.content)) .empty

end Rowsmith.Files

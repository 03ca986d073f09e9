/-
The module tree: one file for every directory that holds generated units,
declaring the units and the directories directly in it.
-/
import Rowsmith.Emit.Code

namespace Rowsmith.Emit

/-- A directory below the root of the tree, as the names on the way to
it. -/
abbrev Directory := List String

/-- What a file makes its directories declare: each directory on the way
the next one, and the last the file. -/
def declaredBy (file : Path) : List (Directory × String) :=
  let names := ((file.parent?.map Path.components).getD []).map PathComponent.text
  (names.zipIdx.map fun (name, i) => (names.take i, name)) ++
    (file.stem?.map fun stem => (names, stem)).toList

/-- The children declared in a directory, sorted, each once. -/
def childrenOf (declared : List (Directory × String)) (dir : Directory) : List String :=
  (((declared.filter fun d => d.1 = dir).map (·.2)).mergeSort fun a b => a ≤ b).eraseDups

/-- The path of the file of a directory. -/
def moduleFilePath (dir : Directory) : Path := (Path.below dir).join ⟨"mod.rs"⟩

/-- The directories in which something is declared, each once and in the
order of their paths. -/
def declaringDirectories (declared : List (Directory × String)) : List Directory :=
  ((declared.map (·.1)).eraseDups).mergeSort fun a b => (Path.below a).le (Path.below b)

def moduleFileText (children : List String) : String :=
  header ++ "\n\n" ++ String.join (children.map fun child => "pub mod " ++ child ++ ";\n")

/-- The files that declare the units with the given paths, in the order of
their directories. -/
def moduleFiles (units : List Path) : List SourceFile :=
  let declared := units.flatMap declaredBy
  (declaringDirectories declared).map fun dir =>
    ⟨moduleFilePath dir, moduleFileText (childrenOf declared dir)⟩

end Rowsmith.Emit

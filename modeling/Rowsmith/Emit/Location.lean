/-
Where generated types live. A type is generated next to the model or
structure it belongs to: the modules of the declared type become the
directories of the file, below the root of the generated tree, and the
file is named after the generated type.
-/
import Rowsmith.Naming
import Rowsmith.Path
import Rowsmith.Schema.Table

namespace Rowsmith.Emit

/-- Where the generated tree goes and what it refers to. -/
structure Target where
  -- The directory that receives the tree.
  outDir : Path
  -- The module of the tree inside the crate.
  generatedModule : String
  -- The path of the runtime.
  runtime : String
deriving DecidableEq, Repr

/-- The target of a configuration that sets nothing. -/
def Target.default : Target := ⟨⟨"src/generated"⟩, "generated", "archgen_runtime"⟩

/-- Drops every marker of the crate root at the front. -/
def dropCrateMarks : List Char → List Char
  | 'c' :: 'r' :: 'a' :: 't' :: 'e' :: ':' :: ':' :: rest => dropCrateMarks rest
  | path => path

/-- The module path of the generated tree, from the crate root. -/
def Target.root (t : Target) : String :=
  match dropCrateMarks t.generatedModule.toList with
  | [] => "crate"
  | path => "crate::" ++ String.ofList path

/-- Where a generated type lives. -/
structure Location where
  -- The modules below the root of the generated tree.
  modules : List String
  -- The name of the file and of its module.
  stem : String
  -- The name of the type.
  name : String
deriving DecidableEq, Repr

namespace Location

/-- The modules a module path leads through, seen from the crate root. -/
def modulesOf (path : String) : List String :=
  ((TypeExpr.segments (dropCrateMarks path.toList)).map String.ofList).filter fun segment =>
    !segment.isEmpty && segment != "crate"

/-- The place of a type generated for a declared type. -/
def beside (declared : TypeExpr) (name : String) : Location where
  modules := (declared.module?.map modulesOf).getD []
  stem := Naming.fileStem name
  name := name

/-- The place of the accessor of a table. -/
def ofTable (t : Table) : Location := beside t.model t.accessor

/-- The place of the adapter of a nested structure type. -/
def ofAdapter (type : TypeExpr) : Location := beside type (Naming.adapterName type.name)

/-- The file, below the root of the generated tree. -/
def file (l : Location) : Path :=
  (Path.below l.modules).join ⟨l.stem ++ ".rs"⟩

def fullPath (l : Location) (t : Target) : String :=
  l.modules.foldl (fun path m => path ++ "::" ++ m) t.root ++ "::" ++ l.stem ++ "::" ++ l.name

end Location

/-- The path of a declared type, from the crate root. -/
def cratePath (declared : TypeExpr) : String :=
  if "crate::".toList.isPrefixOf declared.path.toList then declared.path
  else "crate::" ++ declared.path

end Rowsmith.Emit

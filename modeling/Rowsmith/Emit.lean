/-
Generating code: the files of a schema below the root of the generated
tree. Every table has an accessor, every nested structure an adapter and
every directory a file that declares what is in it; the files are sorted
by path.
-/
import Rowsmith.Emit.AdapterUnit
import Rowsmith.Emit.ModuleTree
import Rowsmith.Emit.TableUnit

namespace Rowsmith.Emit

/-- The accessors and adapters of a schema. -/
def units (s : Schema) (target : Target) : Except Defect (List SourceFile) := do
  return (← s.tables.mapM (tableUnit s target)) ++ (← s.structures.mapM (adapterUnit target))

/-- All files of a schema. Of two files with one path the unit comes
first. -/
def generate (s : Schema) (target : Target) : Except Defect (List SourceFile) := do
  let units ← units s target
  return (units ++ moduleFiles (units.map (·.path))).mergeSort fun a b => a.path.le b.path

end Rowsmith.Emit

/-
A run: the declarations of all sources, the requests that the settings
make of them, and the schema that meets the requests.
-/
import Rowsmith.Schema.Resolve
import Rowsmith.Settings.Override
import Rowsmith.Source.Declarations
import Rowsmith.Stop

namespace Rowsmith

namespace Settings

/-- The schema of the declarations in a catalog. -/
def schemaOf (s : Settings) (c : Catalog) : Except Stop Schema := do
  let request ← Stop.ofDefect (s.request c)
  let registry ← Stop.ofDefect s.registry
  Stop.ofFailure (resolve c.describer registry.locator request)

end Settings

end Rowsmith

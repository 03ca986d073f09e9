/-
Existing conversion code: mappers, which convert a value to and from one
column, and adapters, which convert a value to and from several. Both are
found by the type of the value.
-/
import Rowsmith.Model.Catalog
import Rowsmith.Conversion

namespace Rowsmith

/-- Existing code that converts a value to and from one column. -/
structure ProvidedMapper where
  path : String
  storage : Storage
deriving DecidableEq, Repr

/-- A column that an existing adapter writes. -/
structure AdapterColumn where
  name : String
  storage : Storage
deriving DecidableEq, Repr

/-- Existing code that converts a value to and from several columns. -/
structure ProvidedAdapter where
  path : String
  columns : List AdapterColumn
deriving DecidableEq, Repr

/-- Finds existing conversion code by the type of the value. -/
structure Locator where
  mapper? : TypeExpr → Option ProvidedMapper
  adapter? : TypeExpr → Option ProvidedAdapter

/-- Conversion code listed by type; a later entry for a type takes the
place of an earlier one. -/
structure Registry where
  mappers : List (TypeExpr × ProvidedMapper)
  adapters : List (TypeExpr × ProvidedAdapter)
deriving DecidableEq, Repr

namespace Registry

def empty : Registry := ⟨[], []⟩

def addMapper (r : Registry) (type : TypeExpr) (m : ProvidedMapper) : Registry :=
  { r with mappers := putAssoc r.mappers type m }

def addAdapter (r : Registry) (type : TypeExpr) (a : ProvidedAdapter) : Registry :=
  { r with adapters := putAssoc r.adapters type a }

/-- Looking up types in a registry. -/
def locator (r : Registry) : Locator where
  mapper? := findAssoc? r.mappers
  adapter? := findAssoc? r.adapters

end Registry

end Rowsmith

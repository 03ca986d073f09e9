/-
Requests: which models become tables and which nested structures get an
adapter even if no table uses them.

A model is known by its own type and by every further key of its
request, so a reference may name any of them.
-/
import Rowsmith.Model.Field

namespace Rowsmith

/-- The two reference fields of a model that links two others. -/
structure Bridge where
  left : String
  right : String
deriving DecidableEq, Repr

/-- A model that becomes a table. -/
structure TableRequest where
  -- The name of the table.
  table : String
  -- The name of the generated accessor.
  accessor : String
  -- The type of the model.
  model : TypeExpr
  -- Further types the model is known by.
  keys : List TypeExpr
  bridge : Option Bridge
deriving DecidableEq, Repr

namespace TableRequest

/-- A request with the names derived from the type of the model. -/
def ofModel (model : TypeExpr) : TableRequest where
  table := Naming.tableName model.name
  accessor := Naming.accessorName model.name
  model := model
  keys := []
  bridge := none

/-- The types the model is known by, its own first. -/
def lookupKeys (r : TableRequest) : List TypeExpr := r.model :: r.keys

/-- The short name of the model in messages. -/
def modelName (r : TableRequest) : String := r.model.name

end TableRequest

/-- All that one run resolves: tables in order, then nested structures on
their own. -/
structure Request where
  models : List TableRequest
  structures : List TypeExpr
deriving DecidableEq, Repr

end Rowsmith

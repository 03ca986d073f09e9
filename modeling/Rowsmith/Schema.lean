/-
Schemas: the outcome of a successful run. A schema lists the tables in
the order of their requests and the nested structures that need an
adapter, and finds a table by every type its model is known by.
-/
import Rowsmith.Schema.Table

namespace Rowsmith

/-- Resolved tables and nested structures. -/
structure Schema where
  tables : List Table
  structures : List Structure
  -- The position of the table of every type a model is known by.
  lookup : List (TypeExpr × TableId)
deriving Repr

namespace Schema

def table (s : Schema) (id : TableId) : Except Defect Table :=
  match s.tables[id]? with
  | some t => .ok t
  | none => .error (.noTable s.tables.length id)

/-- The table of the model known by a type. -/
def tableFor? (s : Schema) (type : TypeExpr) : Option Table :=
  (findAssoc? s.lookup type).bind fun id => s.tables[id]?

/-- The primary key column a reference points at. -/
def keyColumn (s : Schema) (r : Reference) : Except Defect Column := do
  let t ← s.table r.table
  match t.primaryKey? with
  | some key => key.column
  | none => throw (.keyless t.name)

/-- The tables a table refers to, in field order. -/
def successors (s : Schema) (id : TableId) : List TableId :=
  match s.tables[id]? with
  | some t => t.references.map (·.table)
  | none => []

end Schema

end Rowsmith

/-
Tables: resolved models. A table is known by its position in the schema,
which is that of the request it was resolved from.
-/
import Rowsmith.Defect
import Rowsmith.ReferenceShape
import Rowsmith.Schema.Structure

namespace Rowsmith

/-- The position of a table in its schema. -/
abbrev TableId := Nat

/-- What a field that refers to another model points at. -/
structure Reference where
  -- The referenced table.
  table : TableId
  -- How the referenced key, and so the field itself, is stored.
  key : Storage
  -- The type of the key, as the reference declares it.
  keyType : TypeExpr
  shape : ReferenceShape
deriving DecidableEq, Repr

/-- How a field of a table is stored. -/
inductive FieldKind
  -- One column holding the value as it is.
  | native
  -- One column holding the key of another table.
  | reference (target : Reference)
  -- One column holding the converted value.
  | mapped (conversion : Conversion)
  -- The columns of an existing adapter.
  | adapted (adapter : ProvidedAdapter)
  -- The columns of a nested structure.
  | nested (structured : Structure)
deriving Repr

/-- A resolved field of a table. -/
structure TableField where
  -- The identifier of the field.
  name : String
  -- The declared type, an optional type included.
  type : TypeExpr
  -- The columns of the field, in order.
  columns : List Column
  primaryKey : Bool
  unique : Bool
  nullable : Bool
  -- Default expressions, one for each column, or none.
  defaults : List String
  kind : FieldKind
deriving Repr

namespace TableField

/-- The field is declared optional. -/
def isOptional (f : TableField) : Bool := f.type.isOption

/-- The type of the values the field holds. -/
def valueType (f : TableField) : TypeExpr := f.type.valueType

def columnCount (f : TableField) : Nat := f.columns.length

/-- What the field refers to, if it is a reference. -/
def reference? (f : TableField) : Option Reference :=
  match f.kind with
  | .reference target => some target
  | _ => none

/-- The field refers to another model. -/
def isReference (f : TableField) : Bool := f.reference?.isSome

/-- The only column of a field that has one. -/
def column (f : TableField) : Except Defect Column :=
  match f.columns with
  | [c] => .ok c
  | columns => .error (.severalColumns f.name columns.length)

end TableField

/-- A resolved model. -/
structure Table where
  id : TableId
  -- The name of the table in the database.
  name : String
  -- The name of the generated accessor.
  accessor : String
  -- The type of the model.
  model : TypeExpr
  bridge : Option Bridge
  fields : List TableField
deriving Repr

namespace Table

/-- The short name of the model in messages. -/
def modelName (t : Table) : String := t.model.name

/-- The first field with a given identifier. -/
def field? (t : Table) (name : String) : Option TableField :=
  t.fields.find? fun f => f.name == name

def columns (t : Table) : List Column := t.fields.flatMap (·.columns)

def columnCount (t : Table) : Nat := total (t.fields.map (·.columnCount))

/-- The field that is the primary key. -/
def primaryKey? (t : Table) : Option TableField := t.fields.find? (·.primaryKey)

/-- The references of a table, in field order. -/
def references (t : Table) : List Reference := t.fields.filterMap (·.reference?)

/-- The position of the first column of the field with a given
identifier among the columns of the table. -/
def columnOffset (t : Table) (name : String) : Nat :=
  total ((t.fields.takeWhile fun f => f.name != name).map (·.columnCount))

/-- The columns are as many as are counted. -/
@[simp] theorem length_columns (t : Table) : t.columns.length = t.columnCount :=
  length_flatMap_eq_total _ _

end Table

end Rowsmith

/-
Statements over the tables of a schema. A statement names its table by
position and leaves the columns to the schema, except where it sets or
compares only some of them.
-/
import Rowsmith.Schema
import Rowsmith.FollowPolicy

namespace Rowsmith.Sql

/-- How an insert treats rows that collide with an existing key. -/
inductive InsertMode
  | plain
  | ignore
  | orIgnore
deriving DecidableEq, Repr

/-- What stands between the comparisons of a filter. -/
inductive Joiner
  | and
  | or
deriving DecidableEq, Repr

/-- A statement, or a clause that completes one. -/
inductive Statement
  -- Creates a table, if asked only when there is none, and if asked with
  -- foreign key constraints.
  | createTable (table : TableId) (ifNotExists foreignKeys : Bool)
  -- Deletes rows.
  | delete (table : TableId)
  -- Drops a table, if asked only when there is one.
  | dropTable (table : TableId) (ifExists : Bool)
  -- Compares columns with parameters.
  | filter (columns : List String) (joiner : Joiner)
  -- Inserts one row with every column.
  | insert (table : TableId) (mode : InsertMode)
  -- Reads rows, following references.
  | select (table : TableId) (policy : FollowPolicy)
  -- Sets columns.
  | update (table : TableId) (columns : List String)
deriving DecidableEq, Repr

namespace InsertMode

/-- The modes, in the order in which generated code lists them. -/
def all : List InsertMode := [.plain, .ignore, .orIgnore]

def keyword : InsertMode → String
  | .plain => "INSERT INTO "
  | .ignore => "INSERT IGNORE INTO "
  | .orIgnore => "INSERT OR IGNORE INTO "

end InsertMode

/-- The conjunction between comparisons. -/
def Joiner.delimiter : Joiner → String
  | .and => " AND "
  | .or => " OR "

namespace Statement

/-- Sets the given columns, of which there must be one. -/
def setting (t : Table) (columns : List Column) : Except Defect Statement :=
  if columns.isEmpty then .error (.nothingSet t.name)
  else .ok (.update t.id (columns.map (·.name)))

/-- The columns outside the primary key, in order. -/
def nonKeyColumns (t : Table) : List Column :=
  (t.fields.filter fun f => !f.primaryKey).flatMap (·.columns)

/-- Sets every column outside the primary key, if there is one. -/
def updateNonKey? (t : Table) : Option Statement :=
  if (nonKeyColumns t).isEmpty then none
  else some (.update t.id ((nonKeyColumns t).map (·.name)))

/-- Compares the primary key of a table, if it has one, qualified when
the statement it completes follows references. -/
def filterKey? (t : Table) (policy : FollowPolicy) : Except Defect (Option Statement) :=
  match t.primaryKey? with
  | none => .ok none
  | some key => do
    let column ← key.column
    let ref := if policy.follows then column.qualified t.name else column.bare
    return some (.filter [ref.text] .and)

end Statement

end Rowsmith.Sql

/-
Writing statements: each as a buffer of lines, one line to a clause and,
when a table is created, one to a definition. No terminator is written,
so that a statement and the clause that completes it can be put one after
the other.

The definitions of a created table are values before they are text:
first every column of every field, then one constraint for each unique
field of several columns, then one clause for each reference.
-/
import Rowsmith.Schema.Follow
import Rowsmith.Sql.Flavor
import Rowsmith.Sql.Statement
import Rowsmith.Text.Lines

namespace Rowsmith.Sql

open Text

-- ========================================================== definitions

/-- One line between the parentheses of a created table. -/
inductive Definition
  -- A column of a field, with its default.
  | column (field : TableField) (column : Column) (initial : Option String)
  -- A unique constraint over the columns of one field.
  | unique (columns : List Column)
  -- A foreign key constraint.
  | reference (column : Column) (target : Table) (targetColumn : Column)
deriving Repr

/-- The columns of a field, each with its own default. -/
def columnDefinitions (f : TableField) : List Definition :=
  f.columns.zipIdx.map fun (c, i) => .column f c (f.defaults[i]?)

/-- The constraint of a field that is unique over several columns. -/
def uniqueDefinition? (f : TableField) : Option Definition :=
  if f.unique && f.columns.length > 1 then some (.unique f.columns) else none

/-- The constraint of a field that is a reference. -/
def referenceDefinitions (s : Schema) (f : TableField) : Except Defect (List Definition) :=
  match f.reference? with
  | none => .ok []
  | some r => do
    let column ← f.column
    let target ← s.table r.table
    let targetColumn ← s.keyColumn r
    return [.reference column target targetColumn]

def definitions (s : Schema) (t : Table) (foreignKeys : Bool) :
    Except Defect (List Definition) := do
  let references ← if foreignKeys then t.fields.mapM (referenceDefinitions s) else pure []
  return t.fields.flatMap columnDefinitions ++ t.fields.filterMap uniqueDefinition? ++
    references.flatten

/-- The database numbers the rows itself: the primary key of a flavor
that asks for it, if it is a plain or long integer. -/
def isAutoIncrement (flavor : Flavor) (f : TableField) (c : Column) : Bool :=
  f.primaryKey && flavor == .mysql && (c.storage == .int || c.storage == .long)

def clauseIf (condition : Bool) (text : String) : String :=
  if condition then text else ""

/-- The text of a definition. A default is left out where the database
numbers the rows itself. -/
def Definition.text (flavor : Flavor) : Definition → String
  | .column f c initial =>
    c.name ++ " " ++ flavor.columnType (f.primaryKey || f.isReference) c.storage ++
      clauseIf (!f.nullable) " NOT NULL" ++
      clauseIf f.primaryKey " PRIMARY KEY" ++
      clauseIf (isAutoIncrement flavor f c) " AUTO_INCREMENT" ++
      (match initial with
        | some expr => clauseIf (!isAutoIncrement flavor f c) (" DEFAULT (" ++ expr ++ ")")
        | none => "") ++
      clauseIf (f.unique && f.columns.length == 1) " UNIQUE"
  | .unique columns => "UNIQUE (" ++ commaJoin (columns.map (·.name)) ++ ")"
  | .reference source target key =>
    "FOREIGN KEY(" ++ source.name ++ ") REFERENCES " ++ target.name ++ "(" ++ key.name ++ ")"

/-- The lines of definitions: every one but the last ends in a comma. -/
def definitionLines (flavor : Flavor) : List Definition → List String
  | [] => []
  | [d] => ["    " ++ d.text flavor]
  | d :: rest => ("    " ++ d.text flavor ++ ",") :: definitionLines flavor rest

-- ============================================================== clauses

def joinClause (j : Join) : String :=
  "LEFT JOIN " ++ j.target.name ++
    (match j.rename with
      | some rename => " AS " ++ rename
      | none => "") ++
    " ON " ++ j.sourceRef.text ++ " = " ++ j.targetRef.text

/-- A column set to, or compared with, a parameter. -/
def parameterized (column : String) : String := column ++ "=?"

def clauses (s : Schema) (flavor : Flavor) : Statement → Except Defect (List String)
  | .createTable id ifNotExists foreignKeys => do
    let t ← s.table id
    let defs ← definitions s t foreignKeys
    return ["CREATE TABLE " ++ clauseIf ifNotExists "IF NOT EXISTS " ++ t.name ++ " ("] ++
      definitionLines flavor defs ++ [")"]
  | .delete id => do
    let t ← s.table id
    return ["DELETE FROM " ++ t.name]
  | .dropTable id ifExists => do
    let t ← s.table id
    return ["DROP TABLE " ++ clauseIf ifExists "IF EXISTS " ++ t.name]
  | .filter columns joiner =>
    return if columns.isEmpty then []
      else ["WHERE " ++ String.intercalate joiner.delimiter (columns.map parameterized)]
  | .insert id mode => do
    let t ← s.table id
    return [mode.keyword ++ t.name ++ " (" ++ commaJoin (t.columns.map (·.name)) ++ ")",
      "VALUES (" ++ commaRepeat "?" t.columnCount ++ ")"]
  | .select id policy => do
    let t ← s.table id
    let columns ← s.selectColumns t policy
    let joins ← s.joins t policy
    return ["SELECT " ++ commaJoin (columns.map ColumnRef.text), "FROM " ++ t.name] ++
      joins.map joinClause
  | .update id columns => do
    let t ← s.table id
    return ["UPDATE " ++ t.name, "SET " ++ commaJoin (columns.map parameterized)]

def render (s : Schema) (flavor : Flavor) (statement : Statement) : Except Defect Lines := do
  Lines.empty.pushAll (← clauses s flavor statement)

/-- The lines of several statements, one after the other. -/
def renderAll (s : Schema) (flavor : Flavor) (statements : List Statement) :
    Except Defect Lines := do
  return (← statements.mapM (render s flavor)).foldl Lines.append .empty

end Rowsmith.Sql

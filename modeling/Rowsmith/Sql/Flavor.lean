/-
SQL flavors, and the types they give to columns. Only the creation of
tables depends on the flavor; queries are written alike in all of them.

A column that is a key, primary or foreign, may need a bounded type:
one flavor cannot index unbounded text and another compares binary keys
poorly.
-/
import Rowsmith.Storage

namespace Rowsmith.Sql

/-- The dialect tables are created in. -/
inductive Flavor
  | postgresql
  | sqlite
  | mysql
deriving DecidableEq, Repr

namespace Flavor

/-- The flavors, in the order in which generated code lists them. -/
def all : List Flavor := [.sqlite, .mysql, .postgresql]

/-- The name of a flavor in generated code. -/
def variantName : Flavor → String
  | .postgresql => "Postgresql"
  | .sqlite => "Sqlite"
  | .mysql => "Mysql"

/-- The type names that flavors share unless they say otherwise. -/
def commonType : Storage → String
  | .boolean => "BOOLEAN"
  | .byte => "TINYINT"
  | .short => "SMALLINT"
  | .int => "INTEGER"
  | .long => "BIGINT"
  | .float => "REAL"
  | .double => "DOUBLE"
  | .string => "VARCHAR"
  | .bytes => "BLOB"
  | .date => "DATE"
  | .time => "TIME"
  | .timestamp => "TIMESTAMP"

/-- The type of a column, which is or is not a key. -/
def columnType (flavor : Flavor) (isKey : Bool) (storage : Storage) : String :=
  match flavor, storage with
  | .sqlite, .float => "REAL"
  | .sqlite, .double => "REAL"
  | .sqlite, .string => "VARCHAR"
  | .sqlite, .bytes => if isKey then "VARCHAR" else "BLOB"
  | .sqlite, _ => "INTEGER"
  | .mysql, .string => if isKey then "VARCHAR(255)" else "VARCHAR(4096)"
  | .mysql, .bytes => if isKey then "VARBINARY(255)" else "BLOB"
  | .mysql, .timestamp => "TIMESTAMP(3)"
  | .mysql, storage => commonType storage
  | .postgresql, .byte => "SMALLINT"
  | .postgresql, .double => "DOUBLE PRECISION"
  | .postgresql, .bytes => "BYTEA"
  | .postgresql, storage => commonType storage

end Flavor

end Rowsmith.Sql

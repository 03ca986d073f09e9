/-
Columns, and columns as statements name them. Columns are counted part by
part: `total` adds up the counts.
-/
import Rowsmith.Model.Registry

namespace Rowsmith

/-- A column of a table or of a nested structure. -/
structure Column where
  -- Its name in the database.
  name : String
  storage : Storage
deriving DecidableEq, Repr

/-- A column in a statement, with the table it is qualified by. -/
structure ColumnRef where
  qualifier : Option String
  column : Column
deriving DecidableEq, Repr

namespace Column

def bare (c : Column) : ColumnRef := ⟨none, c⟩

/-- The column qualified by a table name or an alias. -/
def qualified (c : Column) (table : String) : ColumnRef := ⟨some table, c⟩

end Column

/-- The text of a column in a statement. -/
def ColumnRef.text (r : ColumnRef) : String :=
  match r.qualifier with
  | some table => table ++ "." ++ r.column.name
  | none => r.column.name

def total : List Nat → Nat
  | [] => 0
  | count :: rest => count + total rest

/-- Lists that are put together have as many items as all of them. -/
theorem length_flatMap_eq_total {α β : Type} (f : α → List β) (l : List α) :
    (l.flatMap f).length = total (l.map fun a => (f a).length) := by
  induction l with
  | nil => rfl
  | cons a l ih => simp [total, ih]

/-- The columns of a field that an existing adapter writes. A single
column goes by the name of the field; of several, each adds its own name
to it. -/
def ProvidedAdapter.columnsUnder (a : ProvidedAdapter) (name : String) : List Column :=
  match a.columns with
  | [c] => [⟨name, c.storage⟩]
  | columns => columns.map fun c => ⟨Naming.compound name c.name, c.storage⟩

/-- An adapter writes as many columns as it declares. -/
@[simp] theorem ProvidedAdapter.length_columnsUnder (a : ProvidedAdapter) (name : String) :
    (a.columnsUnder name).length = a.columns.length := by
  unfold columnsUnder
  split <;> simp_all

end Rowsmith

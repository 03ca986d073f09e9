/-
Well-formed schemas: what every part of the program that reads a schema
relies on, and no part of it checks again.

A table knows its own position. A field has the columns that its kind
calls for, and at least one if it is optional, so that an absent value
can be told from a present one. A table has at most one primary key, which has one column and
is never null, and a reference is to a table that has one. From this
follows that none of the ways to read a schema ends in a defect: the
table of a reference is there (`WellFormed.referenced`), and so is the
column it points at (`WellFormed.keyColumn`).
-/
import Rowsmith.Proofs.Attempt
import Rowsmith.Schema.Follow

namespace Rowsmith

-- =============================================================== fields

/-- The columns of a field are those its kind calls for: one for a value
that is stored alone, and otherwise those of the adapter or of the nested
structure. -/
def TableField.Laid (f : TableField) : Prop :=
  match f.kind with
  | .native => ∃ c, f.columns = [c]
  | .reference r => ∃ name, f.columns = [⟨name, r.key⟩]
  | .mapped conversion => ∃ name, f.columns = [⟨name, conversion.storage⟩]
  | .adapted adapter => ∃ name, f.columns = adapter.columnsUnder name
  | .nested structured => ∃ name, f.columns = structured.columns name

theorem TableField.reference?_eq_some_iff {f : TableField} {r : Reference} :
    f.reference? = some r ↔ f.kind = .reference r := by
  unfold reference?
  cases f.kind with
  | reference target => simp
  | _ => simp

/-- A reference is stored in one column, as the key it refers to. -/
theorem TableField.Laid.reference {f : TableField} {r : Reference} (h : f.Laid)
    (hr : f.reference? = some r) : ∃ name, f.columns = [⟨name, r.key⟩] := by
  unfold Laid at h
  rw [TableField.reference?_eq_some_iff.1 hr] at h
  exact h

theorem TableField.column_eq_ok {f : TableField} {c : Column} :
    f.column = .ok c ↔ f.columns = [c] := by
  unfold column
  split
  case h_1 c' h => rw [h, Except.ok.injEq, List.cons.injEq]; simp
  case h_2 h =>
    constructor
    · intro hc; cases hc
    · intro hc; exact absurd hc (h c)

-- ================================================================= keys

/-- At most one field is the primary key, and that one has one column and
is not nullable. -/
def Table.SingleKey (t : Table) : Prop :=
  t.fields.filter (·.primaryKey) = [] ∨
    ∃ key, t.fields.filter (·.primaryKey) = [key] ∧ key.columnCount = 1 ∧ key.nullable = false

/-- The primary key of such a table is the only one, has one column and
is not nullable. -/
theorem Table.SingleKey.of_primaryKey? {t : Table} {key : TableField} (h : t.SingleKey)
    (hkey : t.primaryKey? = some key) :
    t.fields.filter (·.primaryKey) = [key] ∧ (∃ c, key.columns = [c]) ∧ key.nullable = false := by
  unfold primaryKey? at hkey
  rw [← List.head?_filter] at hkey
  rcases h with h | ⟨key', h, hcount, hnull⟩
  · rw [h] at hkey; cases hkey
  · rw [h] at hkey
    obtain rfl := Option.some.inj hkey
    exact ⟨h, List.length_eq_one_iff.1 hcount, hnull⟩

/-- The column of the primary key is one of the table. -/
theorem Table.mem_columns_of_primaryKey? {t : Table} {key : TableField} {c : Column}
    (hkey : t.primaryKey? = some key) (hc : key.columns = [c]) : c ∈ t.columns := by
  refine List.mem_flatMap.2 ⟨key, List.mem_of_find?_eq_some hkey, ?_⟩
  rw [hc]
  exact List.mem_singleton_self c

/-- The referenced table has a primary key of the type the reference
declares. -/
def Reference.KeyedIn (r : Reference) (tables : List Table) : Prop :=
  ∃ t key, tables[r.table]? = some t ∧ t.primaryKey? = some key ∧ key.valueType = r.keyType

-- ============================================================== schemas

/-- What a schema promises to those who read it. -/
structure Schema.WellFormed (s : Schema) : Prop where
  ids : ∀ (id : TableId) (t : Table), s.tables[id]? = some t → t.id = id
  laid : ∀ t ∈ s.tables, ∀ f ∈ t.fields, f.Laid
  filled : ∀ t ∈ s.tables, ∀ f ∈ t.fields, f.isOptional = true → f.columns ≠ []
  keys : ∀ t ∈ s.tables, t.SingleKey
  references : ∀ t ∈ s.tables, ∀ f ∈ t.fields, ∀ r, f.reference? = some r → r.KeyedIn s.tables

namespace Schema

variable {s : Schema}

theorem table_eq_ok {id : TableId} {t : Table} : s.table id = .ok t ↔ s.tables[id]? = some t := by
  unfold table
  cases s.tables[id]? with
  | none => simp
  | some t' => simp

/-- A table is found at the position it knows. -/
theorem WellFormed.table {t : Table} (h : s.WellFormed) (ht : t ∈ s.tables) :
    s.table t.id = .ok t := by
  obtain ⟨id, hid⟩ := List.mem_iff_getElem?.1 ht
  rw [h.ids id t hid]
  exact table_eq_ok.2 hid

/-- The key of a referenced table: there is a column a reference points
at. -/
theorem WellFormed.referenced {r : Reference} (h : s.WellFormed) (hr : r.KeyedIn s.tables) :
    ∃ target key column, s.tables[r.table]? = some target ∧
      target.fields.filter (·.primaryKey) = [key] ∧ key.columns = [column] ∧
      key.nullable = false ∧ key.valueType = r.keyType ∧ s.keyColumn r = .ok column := by
  obtain ⟨target, key, htarget, hkey, htype⟩ := hr
  obtain ⟨honly, ⟨column, hcolumn⟩, hnull⟩ :=
    (h.keys target (List.mem_of_getElem? htarget)).of_primaryKey? hkey
  refine ⟨target, key, column, htarget, honly, hcolumn, hnull, htype, ?_⟩
  refine Attempt.bind_eq_ok.2 ⟨target, table_eq_ok.2 htarget, ?_⟩
  rw [hkey]
  exact TableField.column_eq_ok.2 hcolumn

end Schema

end Rowsmith

/-
What the statement that creates a table declares. The definitions of a
table of a well-formed schema can always be written
(`definitions_succeed`), every column of every field is among them
(`mem_definitions_column`), and the foreign key constraints are exactly
those of the fields that are references (`reference_mem_definitions_iff`).
-/
import Rowsmith.Proofs.Attempt
import Rowsmith.Proofs.Schema.WellFormed
import Rowsmith.Sql.Render

namespace Rowsmith.Sql

variable {s : Schema} {t : Table} {foreignKeys : Bool} {defs : List Definition}

-- ============================================================ references

/-- A field that is a reference has one constraint, which names its
column, the referenced table and the column of its key. Other fields have
none. -/
theorem referenceDefinitions_eq_ok {f : TableField} :
    referenceDefinitions s f = .ok defs ↔
      (f.reference? = none ∧ defs = []) ∨
        ∃ r source target column, f.reference? = some r ∧ f.column = .ok source ∧
          s.table r.table = .ok target ∧ s.keyColumn r = .ok column ∧
          defs = [.reference source target column] := by
  unfold referenceDefinitions
  cases f.reference? with
  | none => simp [eq_comm]
  | some r =>
      dsimp only
      constructor
      · intro h
        obtain ⟨source, hsource, h₁⟩ := Attempt.bind_eq_ok.1 h
        obtain ⟨target, htarget, h₂⟩ := Attempt.bind_eq_ok.1 h₁
        obtain ⟨column, hcolumn, h₃⟩ := Attempt.bind_eq_ok.1 h₂
        obtain rfl := Attempt.pure_eq_ok.1 h₃
        exact Or.inr ⟨r, source, target, column, rfl, hsource, htarget, hcolumn, rfl⟩
      · intro h
        rcases h with ⟨h, -⟩ | ⟨r', source, target, column, hr, hsource, htarget, hcolumn, rfl⟩
        · cases h
        · obtain rfl := Option.some.inj hr
          rw [hsource, htarget, hcolumn]
          rfl

theorem referenceDefinitions_succeeds (h : s.WellFormed) (ht : t ∈ s.tables) {f : TableField}
    (hf : f ∈ t.fields) : ∃ defs, referenceDefinitions s f = .ok defs := by
  cases hr : f.reference? with
  | none => exact ⟨[], referenceDefinitions_eq_ok.2 (Or.inl ⟨hr, rfl⟩)⟩
  | some r =>
      obtain ⟨name, hcolumns⟩ := (h.laid t ht f hf).reference hr
      obtain ⟨target, -, column, htarget, -, -, -, -, hcolumn⟩ :=
        h.referenced (h.references t ht f hf r hr)
      exact ⟨_, referenceDefinitions_eq_ok.2 (Or.inr ⟨r, _, target, column, hr,
        TableField.column_eq_ok.2 hcolumns, Schema.table_eq_ok.2 htarget, hcolumn, rfl⟩)⟩

-- =========================================================== definitions

/-- The definitions of a table: its columns, its constraints of several
columns, and if asked for its foreign keys. -/
theorem definitions_eq_ok :
    definitions s t foreignKeys = .ok defs ↔
      ∃ references, (if foreignKeys then t.fields.mapM (referenceDefinitions s) else .ok []) =
          .ok references ∧
        defs = t.fields.flatMap columnDefinitions ++ t.fields.filterMap uniqueDefinition? ++
          references.flatten := by
  have hbind : definitions s t foreignKeys =
      (if foreignKeys then t.fields.mapM (referenceDefinitions s) else .ok []) >>=
        fun references => .ok (t.fields.flatMap columnDefinitions ++
          t.fields.filterMap uniqueDefinition? ++ references.flatten) := by
    cases foreignKeys with
    | false => rfl
    | true => rfl
  rw [hbind, Attempt.bind_eq_ok]
  constructor
  · intro h
    obtain ⟨references, hreferences, h⟩ := h
    exact ⟨references, hreferences, (Except.ok.inj h).symm⟩
  · intro h
    obtain ⟨references, hreferences, rfl⟩ := h
    exact ⟨references, hreferences, rfl⟩

theorem definitions_succeed (h : s.WellFormed) (ht : t ∈ s.tables) (foreignKeys : Bool) :
    ∃ defs, definitions s t foreignKeys = .ok defs := by
  have hreferences : ∃ references,
      (if foreignKeys then t.fields.mapM (referenceDefinitions s) else .ok []) =
        .ok references := by
    cases foreignKeys with
    | false => exact ⟨[], rfl⟩
    | true => exact Attempt.mapM_succeeds fun f hf => referenceDefinitions_succeeds h ht hf
  obtain ⟨references, hreferences⟩ := hreferences
  exact ⟨_, definitions_eq_ok.2 ⟨references, hreferences, rfl⟩⟩

/-- Every column of every field is defined. -/
theorem mem_definitions_column (h : definitions s t foreignKeys = .ok defs) {f : TableField}
    (hf : f ∈ t.fields) {c : Column} (hc : c ∈ f.columns) :
    ∃ initial, .column f c initial ∈ defs := by
  obtain ⟨references, -, rfl⟩ := definitions_eq_ok.1 h
  obtain ⟨i, hi, rfl⟩ := List.mem_iff_getElem.1 hc
  have hmem : (f.columns[i], i) ∈ f.columns.zipIdx :=
    List.mk_mem_zipIdx_iff_getElem?.2 (List.getElem?_eq_getElem hi)
  refine ⟨f.defaults[i]?, List.mem_append_left _ (List.mem_append_left _ ?_)⟩
  exact List.mem_flatMap.2 ⟨f, hf, List.mem_map.2 ⟨_, hmem, rfl⟩⟩

/-- The foreign key constraints are those of the fields that are
references. -/
theorem reference_mem_definitions_iff (h : definitions s t true = .ok defs) {source : Column}
    {target : Table} {column : Column} :
    .reference source target column ∈ defs ↔
      ∃ f ∈ t.fields, ∃ r, f.reference? = some r ∧ f.column = .ok source ∧
        s.table r.table = .ok target ∧ s.keyColumn r = .ok column := by
  obtain ⟨references, hreferences, rfl⟩ := definitions_eq_ok.1 h
  rw [if_pos rfl] at hreferences
  -- neither columns nor unique constraints are references
  have hcolumns : .reference source target column ∉ t.fields.flatMap columnDefinitions := by
    intro hmem
    obtain ⟨f, -, hmem⟩ := List.mem_flatMap.1 hmem
    obtain ⟨_, -, heq⟩ := List.mem_map.1 hmem
    cases heq
  have hunique : .reference source target column ∉ t.fields.filterMap uniqueDefinition? := by
    intro hmem
    obtain ⟨f, -, heq⟩ := List.mem_filterMap.1 hmem
    unfold uniqueDefinition? at heq
    split at heq
    · cases heq
    · cases heq
  rw [List.mem_append, List.mem_append, or_iff_right (not_or.2 ⟨hcolumns, hunique⟩),
    List.mem_flatten]
  have hall := Attempt.mapM_eq_ok_iff.1 hreferences
  constructor
  · intro hmem
    obtain ⟨own, hown, hmem⟩ := hmem
    obtain ⟨f, hf, hdefs⟩ := Related.exists_mem hall.flip hown
    rcases referenceDefinitions_eq_ok.1 hdefs with ⟨-, rfl⟩ | ⟨r, _, _, _, hr, h₁, h₂, h₃, rfl⟩
    · cases hmem
    · cases List.mem_singleton.1 hmem
      exact ⟨f, hf, r, hr, h₁, h₂, h₃⟩
  · intro hfield
    obtain ⟨f, hf, r, hr, h₁, h₂, h₃⟩ := hfield
    obtain ⟨own, hown, hdefs⟩ := Related.exists_mem hall hf
    rw [referenceDefinitions_eq_ok.2 (Or.inr ⟨r, _, _, _, hr, h₁, h₂, h₃, rfl⟩)] at hdefs
    obtain rfl := Except.ok.inj hdefs
    exact ⟨_, hown, List.mem_singleton_self _⟩

-- ================================================================ lines

theorem length_definitionLines (flavor : Flavor) (defs : List Definition) :
    (definitionLines flavor defs).length = defs.length := by
  induction defs with
  | nil => rfl
  | cons d rest ih =>
      cases rest with
      | nil => rfl
      | cons d' rest => exact congrArg (· + 1) ih

/-- A definition is written in the line at its position, and a comma after
it if there is another one. -/
theorem getElem?_definitionLines (flavor : Flavor) {k : Nat} {d : Definition}
    (h : defs[k]? = some d) : (definitionLines flavor defs)[k]? =
      some ("    " ++ d.text flavor ++ if k + 1 < defs.length then "," else "") := by
  induction defs generalizing k with
  | nil => cases h
  | cons d' rest ih =>
      cases rest with
      | nil =>
          cases k with
          | zero =>
              obtain rfl := Option.some.inj h
              exact congrArg some String.append_empty.symm
          | succ k => cases h
      | cons d'' rest =>
          cases k with
          | zero =>
              obtain rfl := Option.some.inj h
              rw [if_pos (by rw [List.length_cons, List.length_cons]; omega)]
              rfl
          | succ k =>
              have hnext : (k + 1 < (d'' :: rest).length) =
                  (k + 1 + 1 < (d' :: d'' :: rest).length) :=
                propext Nat.succ_lt_succ_iff.symm
              have hline := ih h
              simp only [hnext] at hline
              exact hline

theorem separator_mem (p : Prop) [Decidable p] : (if p then "," else "") ∈ ["", ","] := by
  split
  · exact List.mem_cons_of_mem _ List.mem_cons_self
  · exact List.mem_cons_self

theorem exists_line_of_mem {flavor : Flavor} {d : Definition} (h : d ∈ defs) :
    ∃ after ∈ ["", ","], "    " ++ d.text flavor ++ after ∈ definitionLines flavor defs := by
  obtain ⟨k, hk⟩ := List.mem_iff_getElem?.1 h
  exact ⟨_, separator_mem _, List.mem_of_getElem? (getElem?_definitionLines flavor hk)⟩

/-- A table is created by a statement with a line for each of its
definitions. -/
theorem createTable_clauses {flavor : Flavor} {id : TableId} {ifNotExists : Bool}
    (ht : s.table id = .ok t) (hdefs : definitions s t foreignKeys = .ok defs) :
    ∃ lines, clauses s flavor (.createTable id ifNotExists foreignKeys) = .ok lines ∧
      ∀ d ∈ defs, ∃ after ∈ ["", ","], "    " ++ d.text flavor ++ after ∈ lines := by
  refine ⟨_, Attempt.bind_eq_ok.2 ⟨t, ht, Attempt.bind_eq_ok.2 ⟨defs, hdefs, rfl⟩⟩, ?_⟩
  intro d hd
  obtain ⟨after, hafter, hmem⟩ := exists_line_of_mem hd
  exact ⟨after, hafter, List.mem_append_left _ (List.mem_append_right _ hmem)⟩

/-- A foreign key constraint names the column of the reference, the
referenced table and the column of its key. -/
theorem reference_text (flavor : Flavor) (source : Column) (target : Table) (column : Column) :
    (Definition.reference source target column).text flavor =
      "FOREIGN KEY(" ++ source.name ++ ") REFERENCES " ++ target.name ++ "(" ++ column.name ++
        ")" :=
  rfl

/-- The type that a column of a field is declared with. -/
def Flavor.declaredType (flavor : Flavor) (f : TableField) (c : Column) : String :=
  flavor.columnType (f.primaryKey || f.isReference) c.storage

/-- The column of a primary key is declared as such, right after its
type. -/
theorem keyColumn_text (flavor : Flavor) {key : TableField} {c : Column}
    {initial : Option String} (hkey : key.primaryKey = true) (hnull : key.nullable = false) :
    ∃ rest, (Definition.column key c initial).text flavor =
      c.name ++ " " ++ flavor.columnType true c.storage ++ " NOT NULL" ++ " PRIMARY KEY" ++
        rest := by
  unfold Definition.text
  dsimp only
  rw [hkey, hnull]
  simp only [clauseIf, Bool.true_or, Bool.not_false, if_true, String.append_assoc]
  exact ⟨_, rfl⟩

end Rowsmith.Sql

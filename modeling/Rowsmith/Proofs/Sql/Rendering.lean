/-
Which statements can be written. A statement is a list of clauses, and it
can be written if each of them is a single line (`render_fits`). What is
not fixed in a clause are names of tables and columns, and the default
expressions where a table is created.

The statements of a table are those that are made for it as a whole
(`Statement.MadeFor`). All statements of all tables of a schema can be
written in every flavor exactly if these texts are single lines
(`statements_render_iff`). They all appear where the tables are created,
which is why the condition is necessary, and nothing else appears in any
other statement, which is why it is sufficient.
-/
import Rowsmith.Proofs.Sql.TableNames
import Rowsmith.Proofs.Writing.Fitting

namespace Rowsmith

open Text

/-- The texts by which statements name a table and its columns, and the
default expressions of the columns. -/
def Table.sqlTexts (t : Table) : List String :=
  t.name :: (t.columns.map (·.name) ++ t.fields.flatMap (·.defaults))

namespace Sql

attribute [local simp] isSingleLine_append

variable {s : Schema} {t : Table} {flavor : Flavor}

-- ============================================================ statements

/-- The statements that are made for a table. -/
inductive Statement.MadeFor (t : Table) : Statement → Prop
  | insert (mode : InsertMode) : MadeFor t (.insert t.id mode)
  | updateNonKey {statement : Statement} (made : updateNonKey? t = some statement) :
      MadeFor t statement
  | delete : MadeFor t (.delete t.id)
  | select (policy : FollowPolicy) : MadeFor t (.select t.id policy)
  | filterKey {policy : FollowPolicy} {statement : Statement}
      (made : filterKey? t policy = .ok (some statement)) : MadeFor t statement
  | createTable (ifNotExists foreignKeys : Bool) :
      MadeFor t (.createTable t.id ifNotExists foreignKeys)
  | dropTable (ifExists : Bool) : MadeFor t (.dropTable t.id ifExists)

/-- A statement whose clauses are known can be written if they are single
lines. -/
theorem render_fits {statement : Statement} {lines : List String}
    (h : clauses s flavor statement = .ok lines) :
    Emit.Fits (render s flavor statement) (AllSingle lines) :=
  .bind_ok h (.pushAll .empty lines)

-- =========================================================== definitions

theorem isSingleLine_clauseIf {text : String} (h : isSingleLine text = true) (condition : Bool) :
    isSingleLine (clauseIf condition text) = true := by
  cases condition with
  | true => exact h
  | false => exact (by decide : isSingleLine "" = true)

/-- A column is defined on a line if its name is on one, and its default
unless that is left out. -/
theorem isSingleLine_column {f : TableField} {c : Column} {initial : Option String} :
    isSingleLine ((Definition.column f c initial).text flavor) = true ↔
      isSingleLine c.name = true ∧ ∀ expr, initial = some expr →
        isAutoIncrement flavor f c = false → isSingleLine expr = true := by
  have htype : ∀ isKey, isSingleLine (flavor.columnType isKey c.storage) = true := by
    intro isKey
    cases flavor <;> cases c.storage <;> cases isKey <;> decide
  have hnull := @isSingleLine_clauseIf " NOT NULL" (by decide)
  have hkey := @isSingleLine_clauseIf " PRIMARY KEY" (by decide)
  have hincrement := @isSingleLine_clauseIf " AUTO_INCREMENT" (by decide)
  have hunique := @isSingleLine_clauseIf " UNIQUE" (by decide)
  unfold Definition.text
  cases initial with
  | none => simp +decide [htype, hnull, hkey, hincrement, hunique]
  | some expr =>
      have hdefault : isSingleLine (clauseIf (!isAutoIncrement flavor f c)
          (" DEFAULT (" ++ expr ++ ")")) = true ↔
            (isAutoIncrement flavor f c = false → isSingleLine expr = true) := by
        cases isAutoIncrement flavor f c <;> simp +decide [clauseIf]
      simp +decide [htype, hnull, hkey, hincrement, hunique, hdefault]

/-- Definitions are written on lines of their own. -/
theorem allSingle_definitionLines {defs : List Definition} :
    AllSingle (definitionLines flavor defs) ↔
      ∀ d ∈ defs, isSingleLine (d.text flavor) = true := by
  induction defs with
  | nil => simp [definitionLines]
  | cons d rest ih =>
      cases rest with
      | nil => simp +decide [definitionLines]
      | cons d' rest =>
          have hlines : definitionLines flavor (d :: d' :: rest) =
              ("    " ++ d.text flavor ++ ",") :: definitionLines flavor (d' :: rest) := rfl
          rw [List.forall_mem_cons, ← ih, hlines, allSingle_cons]
          simp +decide

-- =============================================================== texts

theorem isSingleLine_parameterized (column : String) :
    isSingleLine (parameterized column) = true ↔ isSingleLine column = true := by
  unfold parameterized
  simp +decide

theorem isSingleLine_ref {ref : ColumnRef} (hname : isSingleLine ref.column.name = true)
    (hqualifier : ∀ name, ref.qualifier = some name → isSingleLine name = true) :
    isSingleLine ref.text = true := by
  unfold ColumnRef.text
  cases hfound : ref.qualifier with
  | none => exact hname
  | some name => simp +decide [hname, hqualifier name hfound]

/-- Where joins are numbered, their aliases are the names of their targets
with a number. -/
theorem alias_of_numbered {taken : List String} {joins : List Join} (h : Numbered taken joins) :
    ∀ j ∈ joins, ∃ n, j.rename = Walk.aliasFor j.target.name n := by
  induction joins generalizing taken with
  | nil => exact fun _ hj => nomatch hj
  | cons j joins ih => exact List.forall_mem_cons.2 ⟨⟨_, h.1⟩, ih h.2⟩

theorem isSingleLine_alias {name rename : String} {n : Nat} (hname : isSingleLine name = true)
    (h : Walk.aliasFor name n = some rename) : isSingleLine rename = true := by
  unfold Walk.aliasFor at h
  split at h
  · obtain rfl := Option.some.inj h
    rw [isSingleLine_append, isSingleLine_append, hname, isSingleLine_toString]
    decide
  · cases h

theorem allSingle_sqlTexts :
    AllSingle t.sqlTexts ↔ isSingleLine t.name = true ∧
      (∀ c ∈ t.columns, isSingleLine c.name = true) ∧ ∀ f ∈ t.fields, AllSingle f.defaults := by
  unfold Table.sqlTexts
  rw [allSingle_cons, allSingle_append, allSingle_map, allSingle_flatMap]

-- ======================================================== creating tables

/-- The clauses that create a table. -/
theorem createTable_clauses_eq {defs : List Definition} {ifNotExists foreignKeys : Bool}
    (ht : s.table t.id = .ok t) (hdefs : definitions s t foreignKeys = .ok defs) :
    clauses s flavor (.createTable t.id ifNotExists foreignKeys) =
      .ok (["CREATE TABLE " ++ clauseIf ifNotExists "IF NOT EXISTS " ++ t.name ++ " ("] ++
        definitionLines flavor defs ++ [")"]) :=
  Attempt.bind_eq_ok.2 ⟨t, ht, Attempt.bind_eq_ok.2 ⟨defs, hdefs, rfl⟩⟩

theorem allSingle_createTable {defs : List Definition} (ifNotExists : Bool) :
    AllSingle (["CREATE TABLE " ++ clauseIf ifNotExists "IF NOT EXISTS " ++ t.name ++ " ("] ++
      definitionLines flavor defs ++ [")"]) ↔
      isSingleLine t.name = true ∧ ∀ d ∈ defs, isSingleLine (d.text flavor) = true := by
  have hclause := @isSingleLine_clauseIf "IF NOT EXISTS " (by decide) ifNotExists
  rw [← allSingle_definitionLines]
  simp +decide [hclause]

/-- Where a table can be created in the flavor that never numbers rows
itself, all its texts are single lines. -/
theorem sqlTexts_of_createTable (h : s.WellFormed) (ht : t ∈ s.tables)
    (hdefaults : ∀ f ∈ t.fields, f.defaults = [] ∨ f.defaults.length = f.columnCount)
    {ifNotExists foreignKeys : Bool}
    (hcreate : ∃ b, render s .sqlite (.createTable t.id ifNotExists foreignKeys) = .ok b) :
    AllSingle t.sqlTexts := by
  obtain ⟨defs, hdefs⟩ := definitions_succeed h ht foreignKeys
  have hlines := (render_fits (createTable_clauses_eq (h.table ht) hdefs)).iff.1 hcreate
  obtain ⟨hname, htexts⟩ := (allSingle_createTable ifNotExists).1 hlines
  refine allSingle_sqlTexts.2 ⟨hname, fun c hc => ?_, fun f hf expr hexpr => ?_⟩
  · obtain ⟨f, hf, hc⟩ := List.mem_flatMap.1 hc
    obtain ⟨initial, hmem⟩ := mem_definitions_column hdefs hf hc
    exact (isSingleLine_column.1 (htexts _ hmem)).1
  · -- a default belongs to the column at its position
    obtain ⟨i, hi, rfl⟩ := List.mem_iff_getElem.1 hexpr
    have hcount : i < f.columns.length := by
      rcases hdefaults f hf with hnone | heach
      · rw [hnone] at hi
        cases hi
      · rw [heach] at hi
        exact hi
    have hmem : Definition.column f f.columns[i] (some f.defaults[i]) ∈ defs := by
      obtain ⟨references, -, rfl⟩ := definitions_eq_ok.1 hdefs
      refine List.mem_append_left _ (List.mem_append_left _ (List.mem_flatMap.2 ⟨f, hf, ?_⟩))
      refine List.mem_map.2 ⟨(f.columns[i], i), ?_, ?_⟩
      · exact List.mk_mem_zipIdx_iff_getElem?.2 (List.getElem?_eq_getElem hcount)
      · dsimp only
        rw [List.getElem?_eq_getElem hi]
    have hauto : isAutoIncrement .sqlite f f.columns[i] = false := by
      unfold isAutoIncrement
      cases f.primaryKey <;> rfl
    exact (isSingleLine_column.1 (htexts _ hmem)).2 _ rfl hauto

theorem isSingleLine_definition (hsingle : ∀ t ∈ s.tables, AllSingle t.sqlTexts)
    (ht : t ∈ s.tables) {foreignKeys : Bool} {defs : List Definition}
    (hdefs : definitions s t foreignKeys = .ok defs) :
    ∀ d ∈ defs, isSingleLine (d.text flavor) = true := by
  obtain ⟨-, hcolumns, hdefaults⟩ := allSingle_sqlTexts.1 (hsingle t ht)
  have hcolumn : ∀ f ∈ t.fields, ∀ c ∈ f.columns, isSingleLine c.name = true :=
    fun f hf c hc => hcolumns c (List.mem_flatMap.2 ⟨f, hf, hc⟩)
  obtain ⟨references, hreferences, rfl⟩ := definitions_eq_ok.1 hdefs
  intro d hd
  rcases List.mem_append.1 hd with hd | hd
  · rcases List.mem_append.1 hd with hd | hd
    · obtain ⟨f, hf, hd⟩ := List.mem_flatMap.1 hd
      obtain ⟨⟨c, i⟩, hc, rfl⟩ := List.mem_map.1 hd
      refine isSingleLine_column.2 ⟨hcolumn f hf c (List.fst_mem_of_mem_zipIdx hc), ?_⟩
      intro expr hexpr _
      exact hdefaults f hf expr (List.mem_of_getElem? hexpr)
    · obtain ⟨f, hf, hd⟩ := List.mem_filterMap.1 hd
      unfold uniqueDefinition? at hd
      split at hd
      case isFalse => cases hd
      case isTrue =>
        obtain rfl := Option.some.inj hd
        have hnames : AllSingle (f.columns.map (·.name)) := allSingle_map.2 (hcolumn f hf)
        unfold Definition.text
        simp +decide [hnames]
  · cases foreignKeys with
    | false =>
        obtain rfl := Except.ok.inj hreferences
        cases hd
    | true =>
        obtain ⟨own, hown, hd⟩ := List.mem_flatten.1 hd
        obtain ⟨f, hf, hown⟩ := Related.exists_mem (Attempt.mapM_eq_ok_iff.1 hreferences).flip hown
        rcases referenceDefinitions_eq_ok.1 hown with
          ⟨-, rfl⟩ | ⟨r, source, target, column, hr, hsource, htarget, hkey, rfl⟩
        · cases hd
        · obtain rfl := List.mem_singleton.1 hd
          have htables := Schema.table_eq_ok.1 htarget
          obtain ⟨htargetName, htargetColumns, -⟩ :=
            allSingle_sqlTexts.1 (hsingle target (List.mem_of_getElem? htables))
          have hsourceName : isSingleLine source.name = true := by
            refine hcolumn f hf source ?_
            rw [TableField.column_eq_ok.1 hsource]
            exact List.mem_singleton_self source
          have hkeyName := htargetColumns column (Schema.mem_columns_of_keyColumn htables hkey)
          rw [reference_text]
          simp +decide [htargetName, hsourceName, hkeyName]

-- ========================================================= other statements

section

variable (h : s.WellFormed) (hsingle : ∀ t ∈ s.tables, AllSingle t.sqlTexts) (ht : t ∈ s.tables)

include h hsingle ht

/-- The columns and joins of a select statement are written on lines. -/
theorem allSingle_select {policy : FollowPolicy} {columns : List ColumnRef} {joins : List Join}
    (hcolumns : s.selectColumns t policy = .ok columns) (hjoins : s.joins t policy = .ok joins) :
    AllSingle (columns.map ColumnRef.text) ∧ AllSingle (joins.map joinClause) := by
  obtain ⟨hname, hown, -⟩ := allSingle_sqlTexts.1 (hsingle t ht)
  obtain ⟨columns', joins', hcolumns', hjoins', hnumbered, hkeys, hdeep⟩ :=
    Schema.selectColumns_joins_ok h ht policy
  obtain rfl := Except.ok.inj (hcolumns.symm.trans hcolumns')
  obtain rfl := Except.ok.inj (hjoins.symm.trans hjoins')
  by_cases hpolicy : policy = .keys
  · obtain ⟨rfl, rfl⟩ := hkeys hpolicy
    refine ⟨allSingle_map.2 fun ref href => ?_, allSingle_nil⟩
    obtain ⟨c, hc, rfl⟩ := List.mem_map.1 href
    exact hown c hc
  · have hwell := hdeep hpolicy
    have htarget : ∀ j ∈ joins, j.target ∈ s.tables := by
      intro j hj
      obtain ⟨before, after, hsplit⟩ := List.append_of_mem hj
      obtain ⟨-, -, r, -, -, htarget, -⟩ := (hwell.placed before j after hsplit).follows
      exact List.mem_of_getElem? htarget
    have hrename : ∀ j ∈ joins, ∀ rename, j.rename = some rename → isSingleLine rename = true := by
      intro j hj rename hrename
      obtain ⟨n, hn⟩ := alias_of_numbered hnumbered j hj
      obtain ⟨htargetName, -, -⟩ := allSingle_sqlTexts.1 (hsingle j.target (htarget j hj))
      exact isSingleLine_alias htargetName (hn.symm.trans hrename)
    -- whatever is named is a column of a table in the statement
    have hinstances : ∀ name owner, (name, owner) ∈ instances t joins →
        owner ∈ s.tables ∧ isSingleLine name = true := by
      intro name owner hmem
      rcases List.mem_cons.1 hmem with hmem | hmem
      · obtain ⟨rfl, rfl⟩ := Prod.mk.inj hmem
        exact ⟨ht, hname⟩
      · obtain ⟨j, hj, heq⟩ := List.mem_map.1 hmem
        obtain ⟨rfl, rfl⟩ := Prod.mk.inj heq
        refine ⟨htarget j hj, ?_⟩
        unfold Join.targetName
        cases hfound : j.rename with
        | none => exact (allSingle_sqlTexts.1 (hsingle j.target (htarget j hj))).1
        | some rename => exact hrename j hj rename hfound
    have hrefs : ∀ ref ∈ namedColumns joins columns, isSingleLine ref.text = true := by
      intro ref href
      obtain ⟨name, owner, hqualifier, hmem, hcolumn⟩ := exists_owner hwell href
      obtain ⟨howner, hline⟩ := hinstances name owner hmem
      refine isSingleLine_ref ((allSingle_sqlTexts.1 (hsingle owner howner)).2.1 _ hcolumn) ?_
      intro name' hname'
      exact Option.some.inj (hqualifier.symm.trans hname') ▸ hline
    refine ⟨allSingle_map.2 fun ref href => hrefs ref (List.mem_append_left _ href),
      allSingle_map.2 fun j hj => ?_⟩
    have hcompared : ∀ ref ∈ [j.sourceRef, j.targetRef], isSingleLine ref.text = true :=
      fun ref href => hrefs ref (List.mem_append_right _ (List.mem_flatMap.2 ⟨j, hj, href⟩))
    have htargetName := (allSingle_sqlTexts.1 (hsingle j.target (htarget j hj))).1
    unfold joinClause
    cases hfound : j.rename with
    | none =>
        simp +decide [htargetName, hcompared j.sourceRef (by simp), hcompared j.targetRef (by simp)]
    | some rename =>
        simp +decide [htargetName, hrename j hj rename hfound, hcompared j.sourceRef (by simp),
          hcompared j.targetRef (by simp)]

/-- Where the texts of all tables are single lines, every statement made for
one can be written in every flavor. -/
theorem render_succeeds {statement : Statement} (hmade : statement.MadeFor t) (flavor : Flavor) :
    ∃ b, render s flavor statement = .ok b := by
  have htable := h.table ht
  obtain ⟨hname, hcolumns, -⟩ := allSingle_sqlTexts.1 (hsingle t ht)
  cases hmade with
  | insert mode =>
      have hclauses : clauses s flavor (.insert t.id mode) = .ok _ :=
        Attempt.bind_eq_ok.2 ⟨t, htable, rfl⟩
      refine (render_fits hclauses).iff.2 ?_
      have hnames : AllSingle (t.columns.map (·.name)) := allSingle_map.2 hcolumns
      have hmarks : AllSingle (List.replicate t.columnCount "?") := by
        intro mark hmark
        rw [List.eq_of_mem_replicate hmark]
        decide
      have hkeyword : isSingleLine mode.keyword = true := by cases mode <;> decide
      unfold commaRepeat
      simp +decide [hname, hnames, hmarks, hkeyword]
  | updateNonKey made =>
      unfold Statement.updateNonKey? at made
      split at made
      case isTrue => cases made
      case isFalse =>
        obtain rfl := Option.some.inj made
        have hclauses : clauses s flavor
            (.update t.id ((Statement.nonKeyColumns t).map (·.name))) = .ok _ :=
          Attempt.bind_eq_ok.2 ⟨t, htable, rfl⟩
        refine (render_fits hclauses).iff.2 ?_
        have hset : AllSingle (((Statement.nonKeyColumns t).map (·.name)).map parameterized) := by
          rw [List.map_map, allSingle_map]
          intro c hc
          obtain ⟨f, hf, hc⟩ := List.mem_flatMap.1 hc
          refine (isSingleLine_parameterized c.name).2 (hcolumns c ?_)
          exact List.mem_flatMap.2 ⟨f, List.mem_of_mem_filter hf, hc⟩
        simp +decide [-List.map_map, hname, hset]
  | delete =>
      have hclauses : clauses s flavor (.delete t.id) = .ok _ :=
        Attempt.bind_eq_ok.2 ⟨t, htable, rfl⟩
      refine (render_fits hclauses).iff.2 ?_
      simp +decide [hname]
  | select policy =>
      obtain ⟨columns, joins, hselect, hjoins, -⟩ := Schema.selectColumns_joins_ok h ht policy
      obtain ⟨hcolumnTexts, hjoinTexts⟩ := allSingle_select h hsingle ht hselect hjoins
      refine (render_fits (select_clauses flavor htable hselect hjoins)).iff.2 ?_
      simp +decide [hname, hcolumnTexts, hjoinTexts]
  | @filterKey policy _ made =>
      cases hkey : t.primaryKey? with
      | none =>
          unfold Statement.filterKey? at made
          rw [hkey] at made
          cases made
      | some key =>
          obtain ⟨-, ⟨c, hc⟩, -⟩ := (h.keys t ht).of_primaryKey? hkey
          have hmem := Table.mem_columns_of_primaryKey? hkey hc
          rw [filterKey?_eq hkey hc] at made
          obtain rfl := Option.some.inj (Except.ok.inj made)
          have href : isSingleLine (if policy.follows then c.qualified t.name
              else c.bare).text = true := by
            split
            · exact isSingleLine_ref (hcolumns c hmem) fun name h => Option.some.inj h ▸ hname
            · exact hcolumns c hmem
          refine (render_fits rfl).iff.2 ?_
          unfold Joiner.delimiter
          simp +decide [href, isSingleLine_parameterized]
  | createTable ifNotExists foreignKeys =>
      obtain ⟨defs, hdefs⟩ := definitions_succeed h ht foreignKeys
      refine (render_fits (createTable_clauses_eq htable hdefs)).iff.2 ?_
      exact (allSingle_createTable ifNotExists).2 ⟨hname, isSingleLine_definition hsingle ht hdefs⟩
  | dropTable ifExists =>
      have hclauses : clauses s flavor (.dropTable t.id ifExists) = .ok _ :=
        Attempt.bind_eq_ok.2 ⟨t, htable, rfl⟩
      refine (render_fits hclauses).iff.2 ?_
      have hclause := @isSingleLine_clauseIf "IF EXISTS " (by decide) ifExists
      simp +decide [hname, hclause]

end

/-- The statements made for the tables of a schema can be written, all of
them and in every flavor, exactly if the names of the tables and columns
and the default expressions are single lines. -/
theorem statements_render_iff (h : s.WellFormed)
    (hdefaults : ∀ t ∈ s.tables, ∀ f ∈ t.fields,
      f.defaults = [] ∨ f.defaults.length = f.columnCount) :
    (∀ t ∈ s.tables, ∀ statement, Statement.MadeFor t statement →
      ∀ flavor, ∃ b, render s flavor statement = .ok b) ↔
      ∀ t ∈ s.tables, AllSingle t.sqlTexts := by
  constructor
  · intro hall t ht
    exact sqlTexts_of_createTable h ht (hdefaults t ht)
      (hall t ht _ (.createTable true true) .sqlite)
  · intro hsingle t ht statement hmade flavor
    exact render_succeeds h hsingle ht hmade flavor

end Sql

end Rowsmith

/-
The statement that selects the rows of a table. Its select list and its
joins come from the walk along the references of the table, and so all
that is known of the walk holds of the statement: every column is there
once, under a name that is in scope, and the columns of a joined table
stand directly after the reference it was reached by
(`select_complete`). A clause that compares the primary key of the table
names it as the select list does.
-/
import Rowsmith.Proofs.Follow.Selection
import Rowsmith.Proofs.Resolve.Integrity

namespace Rowsmith

open Text

namespace Schema

variable {s : Schema} {t : Table} {policy : FollowPolicy}

-- ============================================================= policies

/-- A policy that follows references is not given up for one that does
not. -/
theorem effective_follows (s : Schema) (id : TableId) (policy : FollowPolicy) :
    (s.effective id policy).follows = policy.follows := by
  unfold effective
  split
  case isTrue h => rw [h.1]; rfl
  case isFalse => rfl

theorem follows_iff : policy.follows = true ↔ policy ≠ .keys := by
  cases policy <;> decide

-- ========================================================== select list

/-- The columns and joins of a statement that follows references: the
columns are those of the table and of all joined tables, each once, those
of the table in field order and every one under a name that is in scope;
and each join stands in its place. -/
structure SelectsWell (s : Schema) (t : Table) (joins : List Join) (columns : List ColumnRef) :
    Prop where
  complete : columns.Perm
    (t.columns.map (·.qualified t.name) ++ joins.flatMap Join.targetRefs)
  inOrder : (t.columns.map (·.qualified t.name)).Sublist columns
  inScope : ∀ ref ∈ columns, (ref.qualifier = some t.name ∧ ref.column ∈ t.columns) ∨
    ∃ j ∈ joins, ref.qualifier = some j.targetName ∧ ref.column ∈ j.target.columns
  placed : ∀ before j after, joins = before ++ j :: after →
    s.JoinPlaced t t.name columns before j after

/-- There are columns to select and joins to take, whatever the policy
is; they are selected well if it follows references, and otherwise there
are only the columns of the table, by their bare names. -/
theorem selectColumns_joins_ok (h : s.WellFormed) (ht : t ∈ s.tables) (policy : FollowPolicy) :
    ∃ columns joins, s.selectColumns t policy = .ok columns ∧ s.joins t policy = .ok joins ∧
      Numbered [t.name] joins ∧
      (policy = .keys → columns = t.columns.map Column.bare ∧ joins = []) ∧
      (policy ≠ .keys → s.SelectsWell t joins columns) := by
  obtain ⟨w, hw, hselects, hnumbered⟩ := walk_ok h ht policy
  have hjoins : s.joins t policy = .ok w.joins := Attempt.bind_eq_ok.2 ⟨w, hw, rfl⟩
  unfold selectColumns
  by_cases hfollows : (s.effective t.id policy).follows = true
  · rw [if_pos hfollows]
    have hdeep : policy ≠ .keys := follows_iff.1 (effective_follows s t.id policy ▸ hfollows)
    refine ⟨w.columns, w.joins, Attempt.bind_eq_ok.2 ⟨w, hw, rfl⟩, hjoins, hnumbered,
      fun hkeys => absurd hkeys hdeep, fun _ => ?_⟩
    exact ⟨hselects.complete, hselects.inOrder, fun _ => hselects.inScope,
      fun _ _ _ => hselects.joinPlaced (List.Subset.refl _)⟩
  · rw [if_neg hfollows]
    have hkeys : policy = .keys := by
      by_contra hdeep
      exact hfollows (effective_follows s t.id policy ▸ follows_iff.2 hdeep)
    obtain ⟨hnone, -⟩ := hselects.of_not_follows (Bool.eq_false_iff.2 hfollows)
    exact ⟨_, w.joins, rfl, hjoins, hnumbered, fun _ => ⟨rfl, hnone⟩,
      fun hdeep => absurd hkeys hdeep⟩

end Schema

namespace Sql

variable {s : Schema} {t : Table} {policy : FollowPolicy}

-- ============================================================ statement

/-- The text of a join: the referenced table, with its alias if it has one,
and the two columns that are to agree, each qualified by the name that its
table has in the statement. -/
def joinText (j : Join) : String :=
  "LEFT JOIN " ++ j.target.name ++ j.rename.elim "" (" AS " ++ ·) ++ " ON " ++ j.sourceName ++ "." ++
    j.column.name ++ " = " ++ j.rename.getD j.target.name ++ "." ++ j.targetColumn.name

theorem joinClause_eq (j : Join) : joinClause j = joinText j := by
  unfold joinClause joinText Join.sourceRef Join.targetRef Join.targetName Column.qualified
    ColumnRef.text
  simp only [String.append_assoc]
  cases j.rename with
  | none => rfl
  | some rename => rfl

/-- The select statement lists the columns and then takes the joins. -/
theorem select_clauses (flavor : Flavor) {columns : List ColumnRef} {joins : List Join}
    (ht : s.table t.id = .ok t) (hcolumns : s.selectColumns t policy = .ok columns)
    (hjoins : s.joins t policy = .ok joins) :
    clauses s flavor (.select t.id policy) =
      .ok (["SELECT " ++ commaJoin (columns.map ColumnRef.text), "FROM " ++ t.name] ++
        joins.map joinClause) :=
  Attempt.bind_eq_ok.2 ⟨t, ht, Attempt.bind_eq_ok.2 ⟨columns, hcolumns,
    Attempt.bind_eq_ok.2 ⟨joins, hjoins, rfl⟩⟩⟩

/-- The clause that compares the primary key names its column as the
policy has columns named: by the bare name, or qualified by the name of
the table. -/
theorem filterKey?_eq {key : TableField} {c : Column} (hkey : t.primaryKey? = some key)
    (hc : key.columns = [c]) (policy : FollowPolicy) :
    Statement.filterKey? t policy = .ok (some (.filter
      [(if policy.follows then c.qualified t.name else c.bare).text] .and)) := by
  unfold Statement.filterKey?
  rw [hkey]
  exact Attempt.bind_eq_ok.2 ⟨c, TableField.column_eq_ok.2 hc, rfl⟩

/-- The column of the primary key that a clause compares is one of the
columns selected, by the same name. -/
theorem filterKey?_ok (h : s.WellFormed) (ht : t ∈ s.tables) {columns : List ColumnRef}
    {joins : List Join} (hkeys : policy = .keys → columns = t.columns.map Column.bare)
    (hdeep : policy ≠ .keys → s.SelectsWell t joins columns) {key : TableField}
    (hkey : t.primaryKey? = some key) :
    ∃ ref ∈ columns, key.columns = [ref.column] ∧
      Statement.filterKey? t policy = .ok (some (.filter [ref.text] .and)) := by
  obtain ⟨-, ⟨c, hc⟩, -⟩ := (h.keys t ht).of_primaryKey? hkey
  have hmem := Table.mem_columns_of_primaryKey? hkey hc
  rw [filterKey?_eq hkey hc]
  by_cases hpolicy : policy = .keys
  · rw [hkeys hpolicy, hpolicy]
    exact ⟨c.bare, List.mem_map_of_mem hmem, hc, rfl⟩
  · rw [Schema.follows_iff.2 hpolicy]
    have hqualified := List.mem_map_of_mem (f := (·.qualified t.name)) hmem
    exact ⟨c.qualified t.name, (hdeep hpolicy).inOrder.subset hqualified, hc, rfl⟩

/-- The statement that selects a table is complete and well scoped. For
every table of a resolved schema and every policy there are columns and
joins of which the statement is made. If nothing is followed the columns
are those of the table, by their bare names and in field order, and there
is no join. Otherwise they are selected well (`Schema.SelectsWell`). And
the clause that compares the primary key, if there is one, compares a
column that is selected, by the name it is selected by. -/
theorem select_complete {room : Nat}
    {answers : List TypeExpr → TypeExpr → Except Failure (List FieldDecl)} {locator : Locator}
    {request : Request} (hs : resolveWithin room answers locator request = .ok s)
    (ht : t ∈ s.tables) (policy : FollowPolicy) :
    ∃ columns joins, s.selectColumns t policy = .ok columns ∧ s.joins t policy = .ok joins ∧
      (∀ flavor, clauses s flavor (.select t.id policy) =
        .ok (["SELECT " ++ commaJoin (columns.map ColumnRef.text), "FROM " ++ t.name] ++
          joins.map joinText)) ∧
      (policy = .keys → columns = t.columns.map Column.bare ∧ joins = []) ∧
      (policy ≠ .keys → s.SelectsWell t joins columns) ∧
      (t.primaryKey? = none → Statement.filterKey? t policy = .ok none) ∧
      ∀ key, t.primaryKey? = some key → ∃ ref ∈ columns, key.columns = [ref.column] ∧
        Statement.filterKey? t policy = .ok (some (.filter [ref.text] .and)) := by
  have h := wellFormed_of_resolveWithin hs
  obtain ⟨columns, joins, hcolumns, hjoins, -, hkeys, hdeep⟩ :=
    Schema.selectColumns_joins_ok h ht policy
  refine ⟨columns, joins, hcolumns, hjoins, fun flavor => ?_, hkeys, hdeep, fun hnone => ?_,
    fun key hkey => filterKey?_ok h ht (fun hpolicy => (hkeys hpolicy).1) hdeep hkey⟩
  · rw [select_clauses flavor (h.table ht) hcolumns hjoins,
      List.map_congr_left fun j _ => joinClause_eq j]
  · unfold Statement.filterKey?
    rw [hnone]

/-- A user, a song by one, and a review that compares two songs. -/
def reviewCatalog : Catalog where
  decls := [
    ⟨.named "User", [.plain "id" (.named "i32"), .plain "name" (.named "String")], true, none, none,
      [], none⟩,
    ⟨.named "Song", [.plain "id" (.named "i32"),
      .plain "author" (.generic "ForeignInt" [.named "User"])], true, none, none, [], none⟩,
    ⟨.named "Review", [.plain "id" (.named "i32"),
      .plain "first" (.generic "ForeignInt" [.named "Song"]),
      .plain "second" (.generic "ForeignInt" [.named "Song"])], true, none, none, [], none⟩]
  unsupported := []

def reviewRequest : Request :=
  ⟨[.ofModel (.named "User"), .ofModel (.named "Song"), .ofModel (.named "Review")], []⟩

/-- A review selects eleven columns through four joins, and a clause
completes it that compares one of them. -/
theorem select_complete_review :
    ∃ s t columns joins filter, resolve reviewCatalog.describer Registry.empty.locator
        reviewRequest = .ok s ∧ t ∈ s.tables ∧ s.selectColumns t .all = .ok columns ∧
      s.joins t .all = .ok joins ∧ joins.length = 4 ∧ s.SelectsWell t joins columns ∧
      Statement.filterKey? t .all = .ok (some filter) := by
  have hfound : ((resolve reviewCatalog.describer Registry.empty.locator
      reviewRequest).toOption.bind fun s => s.tables.find? fun t =>
        (s.joins t .all).toOption.map List.length == some 4 &&
          t.primaryKey?.isSome).isSome = true := by
    decide +kernel
  obtain ⟨t, hfound⟩ := Option.isSome_iff_exists.1 hfound
  obtain ⟨s, hs, hfind⟩ := Option.bind_eq_some_iff.1 hfound
  have ht := List.mem_of_find?_eq_some hfind
  have hreview := List.find?_some hfind
  obtain ⟨hcount, hkey⟩ := Bool.and_eq_true_iff.1 hreview
  obtain ⟨key, hkey⟩ := Option.isSome_iff_exists.1 hkey
  obtain ⟨columns, joins, hcolumns, hjoins, -, -, hdeep, -, hfilter⟩ :=
    select_complete (Attempt.toOption_eq_some.1 hs) ht .all
  obtain ⟨ref, -, -, hfilter⟩ := hfilter key hkey
  refine ⟨s, t, columns, joins, _, Attempt.toOption_eq_some.1 hs, ht, hcolumns, hjoins, ?_,
    hdeep (by decide), hfilter⟩
  rw [hjoins] at hcount
  simpa [Except.toOption] using hcount

end Sql

end Rowsmith

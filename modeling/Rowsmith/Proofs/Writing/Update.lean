/-
Writing in step with updating: the parameters of an update stand where its
placeholders do.

The statement that updates a row by its key sets the columns outside the
key and then compares that of the key, so its placeholders are in another
order than the columns of the table. The function that makes its
parameters takes the fields outside the key and then the key. Whether
there is an update is decided twice as well, by columns for the statement
and by fields for the function.

# The argument

That both decide alike rests on what an accepted table keeps to: every
field has a column, so there is a column to set as soon as there is a
field outside the key (`updateFields?_eq_some`). The placeholders are then
the columns of the fields that the function is made for, in the order of
these fields, and the array of any fields is in the order of their columns
(`arrayStores_iff`).

Main result: `update_lines_up`.
-/
import Rowsmith.Proofs.Resolve.Accepted
import Rowsmith.Proofs.Sql.Select
import Rowsmith.Proofs.Writing.Arrays
import Rowsmith.Proofs.Writing.TableCode

namespace Rowsmith.Emit

open Text

-- ========================================================= placeholders

/-- How many question marks a text has. -/
def questionMarks (text : String) : Nat := text.toList.count '?'

theorem questionMarks_append (text text' : String) :
    questionMarks (text ++ text') = questionMarks text + questionMarks text' := by
  unfold questionMarks
  rw [String.toList_append, List.count_append]

/-- Columns that are set, each to a placeholder. -/
def assignments (columns : List Column) : String :=
  commaJoin (columns.map fun c => Sql.parameterized c.name)

theorem assignments_cons (c : Column) (columns : List Column) :
    ∃ trail, assignments (c :: columns) = Sql.parameterized c.name ++ trail ∧
      trail = if columns.isEmpty then "" else ", " ++ assignments columns := by
  cases columns with
  | nil =>
      refine ⟨"", ?_, rfl⟩
      rw [String.append_empty]
      show String.intercalate ", " [Sql.parameterized c.name] = _
      exact String.intercalate_singleton
  | cons c' columns =>
      refine ⟨_, ?_, rfl⟩
      rw [if_neg (by simp), ← String.append_assoc]
      exact String.intercalate_cons_cons

theorem questionMarks_parameterized {name : String} (h : questionMarks name = 0) :
    questionMarks (Sql.parameterized name) = 1 := by
  have hmark : questionMarks "=?" = 1 := by decide
  unfold Sql.parameterized
  rw [questionMarks_append, h, hmark]

/-- There are as many placeholders as columns. -/
theorem questionMarks_assignments {columns : List Column}
    (h : ∀ c ∈ columns, questionMarks c.name = 0) :
    questionMarks (assignments columns) = columns.length := by
  induction columns with
  | nil => rfl
  | cons c columns ih =>
      obtain ⟨hc, hcolumns⟩ := List.forall_mem_cons.1 h
      obtain ⟨trail, htext, htrail⟩ := assignments_cons c columns
      have hcomma : questionMarks ", " = 0 := by decide
      have hmarks : questionMarks trail = columns.length := by
        rw [htrail]
        cases columns with
        | nil => rfl
        | cons c' columns =>
            rw [if_neg (by simp), questionMarks_append, hcomma, ih hcolumns, Nat.zero_add]
      rw [htext, questionMarks_append, questionMarks_parameterized hc, hmarks, List.length_cons,
        Nat.add_comm]

/-- Each of several columns has its own placeholder, which comes after
those of the columns before it. -/
theorem exists_placeholder (before : List Column) (c : Column) (after : List Column) :
    ∃ lead trail, assignments (before ++ c :: after) = lead ++ Sql.parameterized c.name ++ trail ∧
      ((∀ c' ∈ before, questionMarks c'.name = 0) → questionMarks lead = before.length) := by
  obtain ⟨trail, htext, -⟩ := assignments_cons c after
  by_cases hnone : before = []
  · subst hnone
    refine ⟨"", trail, ?_, fun _ => rfl⟩
    rw [String.empty_append]
    exact htext
  · refine ⟨assignments before ++ ", ", trail, ?_, fun hnames => ?_⟩
    · have hsplit : assignments (before ++ c :: after) =
          assignments before ++ ", " ++ assignments (c :: after) := by
        unfold assignments commaJoin
        rw [List.map_append]
        exact String.intercalate_append_of_ne_nil (by simpa using hnone) (by simp)
      rw [hsplit, htext, String.append_assoc, String.append_assoc, String.append_assoc]
    · have hcomma : questionMarks ", " = 0 := by decide
      rw [questionMarks_append, questionMarks_assignments hnames, hcomma, Nat.add_zero]

-- ============================================================ statement

/-- The statement that sets columns where the key has a value. -/
def updateText (t : Table) (set : List Column) (key : Column) : String :=
  "UPDATE " ++ t.name ++ " SET " ++ assignments set ++ " WHERE " ++ Sql.parameterized key.name

/-- No question mark of a statement is part of a name. -/
def Unquestioned (t : Table) (columns : List Column) : Prop :=
  questionMarks t.name = 0 ∧ ∀ c ∈ columns, questionMarks c.name = 0

section

variable {t : Table} {set before after : List Column} {key c : Column}

/-- Up to the key, an update has a placeholder for each column it sets. -/
theorem questionMarks_beforeKey (hnames : Unquestioned t set) :
    questionMarks ("UPDATE " ++ t.name ++ " SET " ++ assignments set ++ " WHERE ") =
      set.length := by
  have hupdate : questionMarks "UPDATE " = 0 := by decide
  have hset : questionMarks " SET " = 0 := by decide
  have hwhere : questionMarks " WHERE " = 0 := by decide
  simp only [questionMarks_append, hupdate, hset, hwhere, hnames.1,
    questionMarks_assignments hnames.2, Nat.zero_add, Nat.add_zero]

/-- A column of an update, be it set or compared, has its own placeholder,
which comes after those of the columns before it. -/
theorem updateText_placeholder (h : set ++ [key] = before ++ c :: after) :
    ∃ lead trail, updateText t set key = lead ++ Sql.parameterized c.name ++ trail ∧
      (Unquestioned t (set ++ [key]) → questionMarks lead = before.length) := by
  rcases split_of_append_eq h with ⟨middle, rfl, -⟩ | ⟨middle, rfl, hlast⟩
  · obtain ⟨lead, trail, htext, hmarks⟩ := exists_placeholder before c middle
    refine ⟨"UPDATE " ++ t.name ++ " SET " ++ lead,
      trail ++ " WHERE " ++ Sql.parameterized key.name, ?_, ?_⟩
    · unfold updateText
      rw [htext]
      simp only [String.append_assoc]
    · rintro ⟨hname, hnames⟩
      have hupdate : questionMarks "UPDATE " = 0 := by decide
      have hset : questionMarks " SET " = 0 := by decide
      have hbefore := hmarks fun c' hc' =>
        hnames c' (List.mem_append_left _ (List.mem_append_left _ hc'))
      simp only [questionMarks_append, hupdate, hset, hname, hbefore, Nat.zero_add]
  · obtain ⟨rfl, hkey⟩ : middle = [] ∧ key = c := by
      cases middle with
      | nil => exact ⟨rfl, (List.cons.inj hlast).1⟩
      | cons c' middle => cases middle with
        | _ => simp at hlast
    subst hkey
    refine ⟨"UPDATE " ++ t.name ++ " SET " ++ assignments set ++ " WHERE ", "", ?_, ?_⟩
    · rw [String.append_empty]
      rfl
    · rintro ⟨hname, hnames⟩
      rw [List.append_nil]
      exact questionMarks_beforeKey ⟨hname, fun c' hc' => hnames c' (List.mem_append_left _ hc')⟩

/-- An update has a placeholder for each column it sets and one for the
key. -/
theorem questionMarks_updateText (hnames : Unquestioned t (set ++ [key])) :
    questionMarks (updateText t set key) = (set ++ [key]).length := by
  obtain ⟨hname, hnames⟩ := hnames
  have hset : Unquestioned t set := ⟨hname, fun c' hc' => hnames c' (List.mem_append_left _ hc')⟩
  have hkey := hnames key (List.mem_append_right _ (List.mem_singleton_self key))
  unfold updateText
  rw [questionMarks_append, questionMarks_beforeKey hset, questionMarks_parameterized hkey,
    List.length_append]
  rfl

end

-- =============================================================== fields

section

variable {s : Schema} {t : Table} {fields : List TableField}

/-- If every field has a column and there is one key, the function that
makes the parameters of an update is made for the fields outside the key,
of which there is one, and then the key. -/
theorem updateFields?_eq_some (hkeys : t.SingleKey) (hfields : updateFields? t = some fields) :
    ∃ f key, t.primaryKey? = some f ∧ f.columns = [key] ∧
      t.fields.filter (fun f => !f.primaryKey) ≠ [] ∧
      fields = t.fields.filter (fun f => !f.primaryKey) ++ [f] := by
  unfold updateFields? at hfields
  split at hfields
  case h_1 f first rest hprimary hothers =>
    obtain ⟨-, ⟨key, hkey⟩, -⟩ := hkeys.of_primaryKey? hprimary
    refine ⟨f, key, hprimary, hkey, ?_, ?_⟩
    · rw [hothers]
      exact List.cons_ne_nil first rest
    · rw [hothers]
      exact (Option.some.inj hfields).symm
  case h_2 => cases hfields

/-- The columns outside the key are those of the fields outside the key,
and if each of these has one, there are none only if there are no such
fields. -/
theorem nonKeyColumns_eq_nil_iff (hcolumns : ∀ f ∈ t.fields, f.columns ≠ []) :
    Sql.Statement.nonKeyColumns t = [] ↔ t.fields.filter (fun f => !f.primaryKey) = [] := by
  unfold Sql.Statement.nonKeyColumns
  constructor
  · intro h
    apply List.eq_nil_iff_forall_not_mem.2
    intro f hf
    exact hcolumns f (List.mem_filter.1 hf).1 (List.flatMap_eq_nil_iff.1 h f hf)
  · intro h
    rw [h]
    rfl

/-- The columns of the fields outside the key and then of the key. -/
theorem columns_keyLast {f : TableField} {key : Column} (hkey : f.columns = [key]) :
    (t.fields.filter (fun f => !f.primaryKey) ++ [f]).flatMap (·.columns) =
      Sql.Statement.nonKeyColumns t ++ [key] := by
  rw [List.flatMap_append, List.flatMap_cons, hkey]
  rfl

/-- These are the columns of the table, if it has one key. -/
theorem nonKeyColumns_perm (hkeys : t.SingleKey) {f : TableField} {key : Column}
    (hprimary : t.primaryKey? = some f) (hkey : f.columns = [key]) :
    (Sql.Statement.nonKeyColumns t ++ [key]).Perm t.columns := by
  obtain ⟨honly, -, -⟩ := hkeys.of_primaryKey? hprimary
  have hsplit := List.filter_append_perm (fun f : TableField => f.primaryKey) t.fields
  rw [← columns_keyLast hkey, ← honly]
  exact (List.perm_append_comm.trans hsplit).flatMap_right _

/-- If the fields of a table are to be updated, there are statements that
set the columns outside the key and compare the key. -/
theorem updateStatements_some (hkeys : t.SingleKey) (hcolumns : ∀ f ∈ t.fields, f.columns ≠ [])
    (hfields : updateFields? t = some fields) {filter? : Option Sql.Statement}
    (hfilter : Sql.Statement.filterKey? t .keys = .ok filter?) :
    ∃ set key, fields.flatMap (·.columns) = set ++ [key] ∧
      updateStatements t filter? = [("UPDATE_BY_PK",
        [.update t.id (set.map (·.name)), .filter [key.name] .and])] := by
  obtain ⟨f, key, hprimary, hkey, hothers, rfl⟩ := updateFields?_eq_some hkeys hfields
  have hset : ¬ (Sql.Statement.nonKeyColumns t).isEmpty = true := by
    intro hempty
    exact hothers ((nonKeyColumns_eq_nil_iff hcolumns).1 (List.isEmpty_iff.1 hempty))
  have hcompared : Sql.Statement.filterKey? t .keys = .ok (some (.filter [key.name] .and)) :=
    Sql.filterKey?_eq hprimary hkey .keys
  obtain rfl := Except.ok.inj (hfilter.symm.trans hcompared)
  refine ⟨Sql.Statement.nonKeyColumns t, key, columns_keyLast hkey, ?_⟩
  unfold updateStatements Sql.Statement.updateNonKey?
  rw [if_neg hset]

/-- If there are no fields to update, there are no statements. -/
theorem updateStatements_none (hcolumns : ∀ f ∈ t.fields, f.columns ≠ [])
    (hfields : updateFields? t = none) {filter? : Option Sql.Statement}
    (hfilter : Sql.Statement.filterKey? t .keys = .ok filter?) :
    updateStatements t filter? = [] := by
  unfold updateStatements
  cases hprimary : t.primaryKey? with
  | none =>
      unfold Sql.Statement.filterKey? at hfilter
      rw [hprimary] at hfilter
      obtain rfl := Except.ok.inj hfilter
      cases Sql.Statement.updateNonKey? t with
      | _ => rfl
  | some key =>
      have hothers : t.fields.filter (fun f => !f.primaryKey) = [] := by
        unfold updateFields? at hfields
        rw [hprimary] at hfields
        cases hothers : t.fields.filter (fun f => !f.primaryKey) with
        | nil => rfl
        | cons first rest =>
            rw [hothers] at hfields
            cases hfields
      have hnone : Sql.Statement.updateNonKey? t = none := by
        unfold Sql.Statement.updateNonKey?
        rw [(nonKeyColumns_eq_nil_iff hcolumns).2 hothers]
        rfl
      rw [hnone]

/-- The text of an update is that of its two statements. -/
theorem updateText_of_statementText (ht : s.table t.id = .ok t) {set : List Column} {key : Column}
    {text : String}
    (h : statementText s [.update t.id (set.map (·.name)), .filter [key.name] .and] = .ok text) :
    text = updateText t set key := by
  obtain ⟨each, heach, rfl⟩ := statementText_ok h
  obtain ⟨first, rest, hupdate, hrest, rfl⟩ := List.forall₂_cons_left_iff.1 heach
  obtain ⟨second, last, hfilter, hlast, rfl⟩ := List.forall₂_cons_left_iff.1 hrest
  obtain rfl := List.forall₂_nil_left_iff.1 hlast
  obtain ⟨t', ht', hlines⟩ := Attempt.bind_eq_ok.1 hupdate
  obtain rfl := Except.ok.inj (ht.symm.trans ht')
  obtain rfl := Attempt.pure_eq_ok.1 hlines
  obtain rfl := Attempt.pure_eq_ok.1 hfilter
  have hset : " SET " = " " ++ "SET " := by rfl
  have hwhere : " WHERE " = " " ++ "WHERE " := by rfl
  have hcomparison : String.intercalate " AND " [Sql.parameterized key.name] =
      Sql.parameterized key.name := String.intercalate_singleton
  rw [List.map_map]
  show String.intercalate " " ["UPDATE " ++ t.name, "SET " ++ assignments set,
    "WHERE " ++ String.intercalate " AND " [Sql.parameterized key.name]] = _
  rw [String.intercalate_cons_cons, String.intercalate_cons_cons, String.intercalate_singleton,
    hcomparison]
  unfold updateText
  rw [hset, hwhere]
  simp only [String.append_assoc]

end

-- ================================================================= main

/-- The parameters of an update are in step with its placeholders, for the
fields that the function is made for, the columns that the statement sets,
the column it compares, and the cells of both. -/
structure UpdateInStep (s : Schema) (existing : ExistingAdapters) (t : Table)
    (fields : List TableField) (set : List Column) (key : Column) (cells : List Cell) : Prop where
  -- Every column of the table is set, or compared if it is that of the
  -- key, and no two have the same name.
  compares : ∃ f, t.primaryKey? = some f ∧ f.columns = [key]
  complete : (set ++ [key]).Perm t.columns
  distinct : ((set ++ [key]).map (·.name)).Nodup
  -- The cells are those of the fields, and their columns those of the
  -- statement, both in order.
  ordered : fields.flatMap (·.columns) = set ++ [key]
  made : ∃ each, List.Forall₂ TableField.Cells fields each ∧ cells = each.flatten
  columns : cells.map (·.1) = set ++ [key]
  -- A column has a placeholder of its own, and there are no others.
  placed : ∀ before c after, cells = before ++ c :: after →
    ∃ lead trail, updateText t set key = lead ++ Sql.parameterized c.1.name ++ trail ∧
      (Unquestioned t (set ++ [key]) → questionMarks lead = before.length)
  counted : Unquestioned t (set ++ [key]) → questionMarks (updateText t set key) = cells.length
  -- The array has a slot for each placeholder, and the leaf that belongs
  -- into a column goes into the slot of its placeholder.
  slots : (initialArray (fieldWrites 0 fields)).length = cells.length
  lines : ((fieldWrites 0 fields).flatMap FieldWrite.slotLines).length = cells.length
  stored : ∀ stores, ArrayStores s existing 0 (fieldWrites 0 fields) stores ↔
    stores = (cells.map (·.2)).zipIdx
  -- An adapter is called with the slot of the first column of its field:
  -- one that is set, or if the key itself is stored through an adapter,
  -- the one that is compared.
  called : ∀ call ∈ calls (fieldWrites 0 fields), ∃ before f after, fields = before ++ f :: after ∧
    call.field = f.name ∧ call.count = f.columnCount ∧ f.columns ≠ [] ∧
    (f.primaryKey = false ∧ (set.drop call.start).take call.count = f.columns ∨
      f.primaryKey = true ∧ call.start = set.length ∧ f.columns = [key])

/-- The lines of a unit declare the update of a table: the constant and the
function together or neither, the constant with the text of the statement,
and the function with a line for each slot and the calls after these. -/
structure UpdateDeclared (target : Target) (t : Table) (model : String) (lines : List String) :
    Prop where
  together : (∃ line ∈ lines, Declares "    pub const " ':' "UPDATE_BY_PK" line) ↔
    ∃ line ∈ lines, Declares "    pub fn " '(' "values_for_update" line
  either : (∃ line ∈ lines, Declares "    pub fn " '(' "values_for_update" line) ↔
    ∃ fields, updateFields? t = some fields
  constant : ∀ line ∈ lines, Declares "    pub const " ':' "UPDATE_BY_PK" line →
    ∃ fields set key, updateFields? t = some fields ∧ fields.flatMap (·.columns) = set ++ [key] ∧
      line = "    " ++ Emit.constant "UPDATE_BY_PK" (updateText t set key)
  function : ∀ fields, updateFields? t = some fields → ∃ names before after,
    List.Forall₂ (fun write name => write.CallsAs target name) (fieldWrites 0 fields) names ∧
    lines = before ++ (valuesLines "values_for_update" model
      ((fieldWrites 0 fields).flatMap FieldWrite.slotLines)
      (((fieldWrites 0 fields).zip names).flatMap
        fun (write, name) => write.callLines name)).map (Lines.indentLine 1) ++ after

section

variable {s : Schema} {t : Table} {existing : ExistingAdapters} {fields : List TableField}
  {set : List Column} {key : Column} {f : TableField}

/-- The calls for fields of which the last is the key. -/
theorem called_of_fields (hcolumns : ∀ f ∈ t.fields, f.columns ≠ []) (hf : f.primaryKey = true)
    (hmem : f ∈ t.fields) (hkey : f.columns = [key])
    {call : Call} (hcall : call ∈ calls (fieldWrites 0
      (t.fields.filter (fun f => !f.primaryKey) ++ [f]))) :
    ∃ before f' after, t.fields.filter (fun f => !f.primaryKey) ++ [f] = before ++ f' :: after ∧
      call.field = f'.name ∧ call.count = f'.columnCount ∧ f'.columns ≠ [] ∧
      (f'.primaryKey = false ∧
          ((Sql.Statement.nonKeyColumns t).drop call.start).take call.count = f'.columns ∨
        f'.primaryKey = true ∧ call.start = (Sql.Statement.nonKeyColumns t).length ∧
          f'.columns = [key]) := by
  obtain ⟨before, f', after, hsplit, hstart, hname, hcount, -⟩ := exists_of_mem_calls hcall
  rw [Nat.zero_add] at hstart
  refine ⟨before, f', after, hsplit, hname, hcount, ?_⟩
  rcases split_of_append_eq hsplit with ⟨middle, hothers, -⟩ | ⟨middle, hothers, hlast⟩
  · have hother : f' ∈ t.fields.filter fun f => !f.primaryKey := by
      rw [hothers]
      exact List.mem_append_right _ List.mem_cons_self
    obtain ⟨hmem', hprimary⟩ := List.mem_filter.1 hother
    refine ⟨hcolumns f' hmem', Or.inl ⟨by simpa using hprimary, ?_⟩⟩
    unfold Sql.Statement.nonKeyColumns
    rw [hothers, hstart, hcount, List.flatMap_append, List.drop_left' (width_eq_length before).symm,
      List.flatMap_cons]
    exact List.take_left' rfl
  · cases middle with
    | nil =>
        obtain ⟨rfl, -⟩ := List.cons.inj hlast
        rw [List.append_nil] at hothers
        refine ⟨hcolumns f hmem, Or.inr ⟨hf, ?_, hkey⟩⟩
        rw [hstart, hothers, width_eq_length]
        rfl
    | cons f'' middle => cases middle with
      | _ => simp at hlast

theorem updateInStep (hlibrary : Library s.structures)
    (hexisting : ∀ a, s.Uses a → existing.InOrder a) (hwritable : ∀ f ∈ t.fields, Writable s f)
    (hkeys : t.SingleKey) (hcolumns : ∀ f ∈ t.fields, f.columns ≠ [])
    (hdistinct : (t.columns.map (·.name)).Nodup) (hfields : updateFields? t = some fields) :
    ∃ set key cells, UpdateInStep s existing t fields set key cells := by
  obtain ⟨f, key, hprimary, hkey, -, rfl⟩ := updateFields?_eq_some hkeys hfields
  obtain ⟨honly, -, -⟩ := hkeys.of_primaryKey? hprimary
  have hf : f ∈ t.fields ∧ f.primaryKey = true := by
    apply List.mem_filter.1
    rw [honly]
    exact List.mem_singleton_self f
  have hmem : ∀ f' ∈ t.fields.filter (fun f => !f.primaryKey) ++ [f], f' ∈ t.fields := by
    intro f' hf'
    rcases List.mem_append.1 hf' with hother | hlast
    · exact (List.mem_filter.1 hother).1
    · rw [List.mem_singleton.1 hlast]
      exact hf.1
  have hwritable' := fun f' hf' => hwritable f' (hmem f' hf')
  have hset := columns_keyLast (t := t) hkey
  have hperm := nonKeyColumns_perm hkeys hprimary hkey
  obtain ⟨each, heach⟩ := Related.exists_forall₂ fun f' hf' => (hwritable' f' hf').laid.exists_cells
  have hcells : each.flatten.map (·.1) = Sql.Statement.nonKeyColumns t ++ [key] := by
    rw [columns_of_cells heach, hset]
  have hlength : each.flatten.length = (Sql.Statement.nonKeyColumns t ++ [key]).length := by
    rw [← hcells, List.length_map]
  have hslots : (initialArray (fieldWrites 0
      (t.fields.filter (fun f => !f.primaryKey) ++ [f]))).length = each.flatten.length := by
    rw [length_initialArray fun f' hf' => (hwritable' f' hf').laid, width_eq_length, hset, hlength]
  refine ⟨Sql.Statement.nonKeyColumns t, key, each.flatten, ?_⟩
  constructor
  case compares => exact ⟨f, hprimary, hkey⟩
  case complete => exact hperm
  case distinct => exact (hperm.map _).nodup_iff.2 hdistinct
  case ordered => exact hset
  case made => exact ⟨each, heach, rfl⟩
  case columns => exact hcells
  case placed =>
    intro before c after hsplit
    have hcolumns := congrArg (List.map (·.1)) hsplit
    rw [hcells, List.map_append, List.map_cons] at hcolumns
    obtain ⟨lead, trail, htext, hmarks⟩ := updateText_placeholder hcolumns
    rw [List.length_map] at hmarks
    exact ⟨lead, trail, htext, hmarks⟩
  case counted =>
    intro hnames
    rw [questionMarks_updateText hnames, hlength]
  case slots => exact hslots
  case lines => rw [length_slotLines, hslots]
  case stored => exact arrayStores_iff hlibrary hexisting hwritable' heach 0
  case called =>
    intro call hcall
    exact called_of_fields hcolumns hf.2 hf.1 hkey hcall

section

variable {target : Target} {file : SourceFile} {uses : Uses} {model : String} {constants : Lines}
  {functions : List Lines} (h : UnitOf s target t file uses model constants functions)
  (hkeys : t.SingleKey) (hcolumns : ∀ f ∈ t.fields, f.columns ≠ [])

include h hkeys hcolumns

/-- The constant of an update that a unit declares has the text of the
statement for the fields to update. -/
theorem UnitOf.update_constant (htable : s.table t.id = .ok t) {line : String}
    (hline : line ∈ unitLines t uses constants functions)
    (hdeclares : Declares "    pub const " ':' "UPDATE_BY_PK" line) :
    ∃ fields set key, updateFields? t = some fields ∧ fields.flatMap (·.columns) = set ++ [key] ∧
      line = "    " ++ constant "UPDATE_BY_PK" (updateText t set key) := by
  obtain ⟨key?, entries, lines, hentries, -, -⟩ := tableConstants_ok h.constants_eq
  obtain ⟨before, filter?, after, hfilter, -, -⟩ := tableStatements_ok hentries
  obtain ⟨statements, text, hentry, htext, rfl⟩ :=
    h.constant_of_declares hentries hline hdeclares List.mem_cons_self
  rw [update_mem_tableStatements hentries hfilter] at hentry
  cases hfields : updateFields? t with
  | none =>
      rw [updateStatements_none hcolumns hfields hfilter] at hentry
      cases hentry
  | some fields =>
      obtain ⟨set, key, hset, hstatements⟩ := updateStatements_some hkeys hcolumns hfields hfilter
      rw [hstatements] at hentry
      obtain ⟨-, rfl⟩ := Prod.mk.inj (List.mem_singleton.1 hentry)
      refine ⟨fields, set, key, rfl, hset, ?_⟩
      rw [updateText_of_statementText htable htext]

/-- If there are fields to update, a unit declares the constant of the
update. -/
theorem UnitOf.exists_update_constant (hfields : updateFields? t = some fields) :
    ∃ line ∈ unitLines t uses constants functions,
      Declares "    pub const " ':' "UPDATE_BY_PK" line := by
  obtain ⟨key?, entries, lines, hentries, -, -⟩ := tableConstants_ok h.constants_eq
  obtain ⟨before, filter?, after, hfilter, -, -⟩ := tableStatements_ok hentries
  obtain ⟨set, key, -, hstatements⟩ := updateStatements_some hkeys hcolumns hfields hfilter
  apply h.exists_constant hentries
  apply (update_mem_tableStatements hentries hfilter _).2
  rw [hstatements]
  exact List.mem_singleton_self _

theorem updateDeclared (htable : s.table t.id = .ok t) :
    UpdateDeclared target t model (unitLines t uses constants functions) := by
  constructor
  case together =>
    rw [h.declares_function_iff]
    constructor
    · rintro ⟨line, hline, hdeclares⟩
      obtain ⟨fields, -, -, hfields, -⟩ := h.update_constant hkeys hcolumns htable hline hdeclares
      exact ⟨fields, hfields⟩
    · rintro ⟨fields, hfields⟩
      exact h.exists_update_constant hkeys hcolumns hfields
  case either => exact h.declares_function_iff
  case constant =>
    intro line hline hdeclares
    exact h.update_constant hkeys hcolumns htable hline hdeclares
  case function =>
    intro fields hfields
    obtain ⟨b, v, v', before, after, hb, hlines⟩ := h.function_lines hfields
    obtain ⟨names, hnames, hvalues⟩ := valuesFunction_ok hb
    rw [hvalues] at hlines
    exact ⟨names, before, after, hnames, hlines⟩

end

end

end Rowsmith.Emit

/-
The text of the unit of a table.

A unit declares the accessor of its table, with a constant for each
statement and a function for each way to use them. Which of them it
declares shows in how lines begin, since a name ends where no name goes
on: a constant before a colon, a function before its parameters
(`Declares`). Of all the lines of a unit only those that are written for a
constant begin like one, and only the first line of a function begins like
a function: what is inside a function is indented further.

# Main results

A unit is made of the lines of its constants and of its functions
(`tableUnit_ok`). It declares a constant for each statement of its table,
and what it declares under the name of a statement has the text of this
statement (`UnitOf.exists_constant`, `UnitOf.constant_of_declares`). It
declares the function that makes the parameters of an update exactly if
there are fields to update (`UnitOf.declares_function_iff`).
-/
import Rowsmith.Proofs.Follow.Selection
import Rowsmith.Proofs.Writing.Code

namespace Rowsmith

open Text

-- =========================================================== statements

namespace Sql

variable {s : Schema} {flavor : Flavor}

theorem render_lines {statement : Statement} {b : Lines} (h : render s flavor statement = .ok b) :
    clauses s flavor statement = .ok b.lines := by
  obtain ⟨lines, hlines, hpush⟩ := Attempt.bind_eq_ok.1 h
  have hb : b.lines = [] ++ lines := Lines.pushAll_lines hpush
  rw [hb]
  exact hlines

theorem foldl_append_lines (b : Lines) (bs : List Lines) :
    (bs.foldl Lines.append b).lines = b.lines ++ bs.flatMap (·.lines) := by
  induction bs generalizing b with
  | nil => exact (List.append_nil _).symm
  | cons b' bs ih =>
      rw [List.foldl_cons, ih, List.flatMap_cons]
      exact List.append_assoc ..

/-- The lines of several statements are the clauses of each. -/
theorem renderAll_lines {statements : List Statement} {b : Lines}
    (h : renderAll s flavor statements = .ok b) :
    ∃ each, List.Forall₂ (fun statement lines => clauses s flavor statement = .ok lines) statements
        each ∧
      b.lines = each.flatten := by
  obtain ⟨bs, hbs, h⟩ := Attempt.bind_eq_ok.1 h
  obtain rfl := Attempt.pure_eq_ok.1 h
  refine ⟨bs.map (·.lines), ?_, ?_⟩
  · rw [List.forall₂_map_right_iff]
    exact (Attempt.mapM_eq_ok_iff.1 hbs).imp fun statement b => render_lines
  · exact foldl_append_lines _ bs

end Sql

namespace Emit

variable {s : Schema} {t : Table} {target : Target}

/-- The text of a constant are the clauses of its statements, one after the
other. -/
theorem statementText_ok {statements : List Sql.Statement} {text : String}
    (h : statementText s statements = .ok text) :
    ∃ each, List.Forall₂ (fun statement lines => Sql.clauses s .sqlite statement = .ok lines)
        statements each ∧
      text = String.intercalate " " each.flatten := by
  obtain ⟨b, hb, h⟩ := Attempt.bind_eq_ok.1 h
  obtain rfl := Attempt.pure_eq_ok.1 h
  obtain ⟨each, heach, hlines⟩ := Sql.renderAll_lines hb
  exact ⟨each, heach, congrArg (String.intercalate " ") hlines⟩

-- ========================================================= declarations

/-- A line begins with an opening and a name, which ends before a mark. -/
def Declares (opening : String) (mark : Char) (name line : String) : Prop :=
  ∃ rest, line.toList = opening.toList ++ (name.toList ++ mark :: rest)

/-- A line declares one name. -/
theorem Declares.unique {opening name name' line : String} {mark : Char}
    (h : Declares opening mark name line) (h' : Declares opening mark name' line)
    (hname : mark ∉ name.toList) (hname' : mark ∉ name'.toList) : name = name' := by
  obtain ⟨rest, hline⟩ := h
  obtain ⟨rest', hline'⟩ := h'
  have hnames := List.append_cancel_left (hline.symm.trans hline')
  rcases split_of_append_eq hnames with ⟨middle, hsplit, -⟩ | ⟨middle, hsplit, hmark⟩
  · refine absurd ?_ hname
    rw [hsplit]
    exact List.mem_append_right _ List.mem_cons_self
  · cases middle with
    | nil =>
        rw [List.append_nil] at hsplit
        exact String.toList_inj.1 hsplit.symm
    | cons c middle =>
        refine absurd ?_ hname'
        rw [hsplit, ← (List.cons.inj hmark).1]
        exact List.mem_append_right _ List.mem_cons_self

/-- A text begins as its first part does. -/
theorem head?_append {text : String} {c d : Char} {cs : List Char} (htext : text.toList = c :: cs)
    (hc : c ≠ d) (rest : String) : (text ++ rest).toList.head? ≠ some d := by
  rw [String.toList_append, htext]
  intro h
  exact hc (Option.some.inj h)

/-- A line begins with another character than a declaration. -/
theorem not_declares_of_head? {opening name line : String} {mark c : Char} {cs : List Char}
    (hopening : opening.toList = c :: cs) (hline : line.toList.head? ≠ some c) :
    ¬ Declares opening mark name line := by
  rintro ⟨rest, hchars⟩
  rw [hchars, hopening] at hline
  exact hline rfl

/-- Nothing is declared by an empty line. -/
theorem not_declares_empty (opening : String) (mark : Char) (name : String) :
    ¬ Declares opening mark name "" := by
  rintro ⟨rest, hchars⟩
  have hmark : mark ∈ "".toList := by
    rw [hchars]
    simp
  cases hmark

/-- The lines of a block declare what they declare without it, which is
indented by one level. -/
theorem declares_indentLine {opening indented name line : String} {mark : Char}
    (hindented : indented = "    " ++ opening) :
    Declares indented mark name (Lines.indentLine 1 line) ↔ Declares opening mark name line := by
  subst hindented
  unfold Lines.indentLine
  by_cases hempty : line.isEmpty = true
  · obtain rfl := String.isEmpty_iff.1 hempty
    rw [if_pos hempty]
    exact iff_of_false (not_declares_empty _ _ _) (not_declares_empty _ _ _)
  · rw [if_neg hempty]
    have hindent : indentation 1 = "    " := by rfl
    unfold Declares
    rw [hindent, String.toList_append, String.toList_append]
    simp only [List.append_assoc, List.append_cancel_left_eq]

-- ============================================================ constants

/-- A constant is declared by its line. -/
theorem declares_constant (name value : String) :
    Declares "pub const " ':' name (constant name value) := by
  unfold Declares constant
  simp only [String.toList_append, List.append_assoc]
  exact ⟨_, rfl⟩

/-- The update of a row by its key, given the clause that compares the
key. -/
def updateStatements (t : Table) (filter? : Option Sql.Statement) :
    List (String × List Sql.Statement) :=
  match Sql.Statement.updateNonKey? t, filter? with
  | some update, some filter => [("UPDATE_BY_PK", [update, filter])]
  | _, _ => []

theorem name_of_mem_updateStatements {filter? : Option Sql.Statement}
    {entry : String × List Sql.Statement} (h : entry ∈ updateStatements t filter?) :
    entry.1 = "UPDATE_BY_PK" := by
  unfold updateStatements at h
  split at h
  case h_1 => rw [List.mem_singleton.1 h]
  case h_2 => cases h

/-- The names of the other constants that are statements. -/
def otherStatementNames : List String :=
  Sql.InsertMode.all.map insertConstant ++ ["DELETE_BY_PK", "DELETE_ALL"] ++
    FollowPolicy.policies.map (policyConstant "SELECT") ++
    FollowPolicy.policies.map (policyConstant "SELECT_BY_PK") ++ ["DROP_TABLE"]

theorem selectByKey?_name {policy : FollowPolicy} {entry : String × List Sql.Statement}
    (h : selectByKey? t policy = .ok (some entry)) :
    entry.1 = policyConstant "SELECT_BY_PK" policy := by
  obtain ⟨filter?, -, h⟩ := Attempt.bind_eq_ok.1 h
  have hentry := Attempt.pure_eq_ok.1 h
  obtain ⟨filter, -, rfl⟩ := Option.map_eq_some_iff.1 hentry
  rfl

/-- Besides the update, a table declares statements of other names. -/
theorem tableStatements_ok {statements : List (String × List Sql.Statement)}
    (h : tableStatements t = .ok statements) :
    ∃ before filter? after, Sql.Statement.filterKey? t .keys = .ok filter? ∧
      statements = before ++ updateStatements t filter? ++ after ∧
      ∀ entry ∈ before ++ after, entry.1 ∈ otherStatementNames := by
  obtain ⟨filter?, hfilter, h⟩ := Attempt.bind_eq_ok.1 h
  obtain ⟨byKey, hbyKey, h⟩ := Attempt.bind_eq_ok.1 h
  have hstatements := Attempt.pure_eq_ok.1 h
  have hnames : ∀ entry ∈ byKey.filterMap id, entry.1 ∈ otherStatementNames := by
    intro entry hentry
    obtain ⟨found, hfound, hsome⟩ := List.mem_filterMap.1 hentry
    obtain rfl : found = some entry := hsome
    obtain ⟨policy, hpolicy, hselect⟩ :=
      Related.exists_mem (Attempt.mapM_eq_ok_iff.1 hbyKey).flip hfound
    rw [selectByKey?_name hselect]
    unfold otherStatementNames
    exact List.mem_append_left _ (List.mem_append_right _ (List.mem_map_of_mem hpolicy))
  refine ⟨Sql.InsertMode.all.map fun mode => (insertConstant mode, [.insert t.id mode]), filter?,
    (filter?.toList.map fun filter => ("DELETE_BY_PK", [.delete t.id, filter])) ++
      [("DELETE_ALL", [.delete t.id])] ++
      (FollowPolicy.policies.map fun policy =>
        (policyConstant "SELECT" policy, [.select t.id policy])) ++
      byKey.filterMap id ++ [("DROP_TABLE", [.dropTable t.id true])], hfilter, ?_, ?_⟩
  · have hafter {α : Type} (before update l₁ l₂ l₃ l₄ l₅ : List α) :
        before ++ update ++ l₁ ++ l₂ ++ l₃ ++ l₄ ++ l₅ =
          before ++ update ++ (l₁ ++ l₂ ++ l₃ ++ l₄ ++ l₅) := by
      simp only [List.append_assoc]
    rw [← hstatements]
    cases filter? with
    | none => exact hafter _ (updateStatements t none) _ _ _ _ _
    | some filter => exact hafter _ (updateStatements t (some filter)) _ _ _ _ _
  · intro entry hentry
    simp only [List.mem_append] at hentry
    rcases hentry with hinsert | (((hdelete | hall) | hselect) | hkey) | hdrop
    · obtain ⟨mode, -, rfl⟩ := List.mem_map.1 hinsert
      show insertConstant mode ∈ otherStatementNames
      cases mode with
      | _ => decide
    · obtain ⟨filter, -, rfl⟩ := List.mem_map.1 hdelete
      show "DELETE_BY_PK" ∈ otherStatementNames
      decide
    · obtain rfl := List.mem_singleton.1 hall
      show "DELETE_ALL" ∈ otherStatementNames
      decide
    · obtain ⟨policy, -, rfl⟩ := List.mem_map.1 hselect
      show policyConstant "SELECT" policy ∈ otherStatementNames
      cases policy with
      | _ => decide
    · exact hnames entry hkey
    · obtain rfl := List.mem_singleton.1 hdrop
      show "DROP_TABLE" ∈ otherStatementNames
      decide

/-- The names of the constants that are statements. -/
def statementNames : List String := "UPDATE_BY_PK" :: otherStatementNames

theorem tableStatements_names {statements : List (String × List Sql.Statement)}
    (h : tableStatements t = .ok statements) : ∀ entry ∈ statements, entry.1 ∈ statementNames := by
  obtain ⟨before, filter?, after, -, rfl, hnames⟩ := tableStatements_ok h
  intro entry hentry
  rw [List.append_assoc, List.mem_append, List.mem_append] at hentry
  rcases hentry with hbefore | hupdate | hafter
  · exact List.mem_cons_of_mem _ (hnames entry (List.mem_append_left _ hbefore))
  · rw [name_of_mem_updateStatements hupdate]
    exact List.mem_cons_self
  · exact List.mem_cons_of_mem _ (hnames entry (List.mem_append_right _ hafter))

/-- The statements that a table declares under the name of the update are
those of the update. -/
theorem update_mem_tableStatements {statements : List (String × List Sql.Statement)}
    (h : tableStatements t = .ok statements) {filter? : Option Sql.Statement}
    (hfilter : Sql.Statement.filterKey? t .keys = .ok filter?) (update : List Sql.Statement) :
    ("UPDATE_BY_PK", update) ∈ statements ↔ ("UPDATE_BY_PK", update) ∈ updateStatements t filter? := by
  obtain ⟨before, filter?', after, hfilter', rfl, hnames⟩ := tableStatements_ok h
  obtain rfl := Except.ok.inj (hfilter.symm.trans hfilter')
  have hother : ("UPDATE_BY_PK", update) ∉ before ++ after := by
    intro hmem
    have hname : "UPDATE_BY_PK" ∈ otherStatementNames := hnames _ hmem
    exact absurd hname (by decide)
  rw [List.mem_append, not_or] at hother
  rw [List.append_assoc, List.mem_append, List.mem_append, or_iff_right hother.1,
    or_iff_left hother.2]

/-- The line of a constant that is made of statements. -/
def StatementLine (s : Schema) (entry : String × List Sql.Statement) (line : String) : Prop :=
  ∃ text, statementText s entry.2 = .ok text ∧ line = constant entry.1 text

/-- Statements are declared one after the other, after what was declared
before. -/
theorem declareStatements_ok {entries : List (String × List Sql.Statement)} {b b' : Lines}
    (h : entries.foldlM (fun (b : Lines) (name, statements) => do
      b.push (constant name (← statementText s statements))) b = .ok b') :
    ∃ lines, List.Forall₂ (StatementLine s) entries lines ∧ b'.lines = b.lines ++ lines := by
  induction entries generalizing b with
  | nil =>
      obtain rfl := Attempt.pure_eq_ok.1 h
      exact ⟨[], .nil, (List.append_nil _).symm⟩
  | cons entry entries ih =>
      obtain ⟨b₁, hentry, hrest⟩ := Attempt.bind_eq_ok.1 h
      obtain ⟨text, htext, hpush⟩ := Attempt.bind_eq_ok.1 hentry
      obtain ⟨-, rfl⟩ := Lines.push_eq_ok.1 hpush
      obtain ⟨lines, hlines, hb'⟩ := ih hrest
      refine ⟨constant entry.1 text :: lines, .cons ⟨text, htext, rfl⟩ hlines, ?_⟩
      rw [hb']
      exact List.append_assoc ..

/-- The lines before the statements, given the column of the primary key if
there is one. -/
def nameLines (t : Table) (key? : Option Column) : List String :=
  [constant "TABLE" t.name, "pub const COLUMNS: [&'static str; " ++ toString t.columns.length ++
      "] = [" ++ commaJoin (t.columns.map fun c => quoted c.name) ++ "];"] ++
    key?.toList.map (fun c : Column => constant "PRIMARY_KEY" c.name) ++
    ["pub const COLUMN_COUNT: usize = " ++ toString t.columns.length ++ ";", ""]

/-- The names of the constants that are not statements. -/
def ownNames : List String := ["TABLE", "COLUMNS", "PRIMARY_KEY", "COLUMN_COUNT"]

theorem declares_of_mem_nameLines {key? : Option Column} {line : String}
    (hline : line ∈ nameLines t key?) :
    line = "" ∨ ∃ name ∈ ownNames, Declares "pub const " ':' name line := by
  unfold nameLines at hline
  simp only [List.mem_append, List.mem_cons, List.not_mem_nil, or_false] at hline
  rcases hline with ((rfl | rfl) | hkey) | rfl | rfl
  · exact Or.inr ⟨"TABLE", by decide, declares_constant ..⟩
  · refine Or.inr ⟨"COLUMNS", by decide, ?_⟩
    unfold Declares
    simp only [String.toList_append, List.append_assoc]
    exact ⟨_, rfl⟩
  · obtain ⟨c, -, rfl⟩ := List.mem_map.1 hkey
    exact Or.inr ⟨"PRIMARY_KEY", by decide, declares_constant ..⟩
  · refine Or.inr ⟨"COLUMN_COUNT", by decide, ?_⟩
    unfold Declares
    simp only [String.toList_append, List.append_assoc]
    exact ⟨_, rfl⟩
  · exact Or.inl rfl

theorem colon_notMem {name : String} (h : name ∈ ownNames ++ statementNames) :
    ':' ∉ name.toList := by
  have hall : ∀ name ∈ ownNames ++ statementNames, ':' ∉ name.toList := by decide
  exact hall name h

theorem notMem_statementNames {name : String} (h : name ∈ ownNames) : name ∉ statementNames := by
  have hall : ∀ name ∈ ownNames, name ∉ statementNames := by decide
  exact hall name h

/-- What is declared after the primary key: the count of the columns, and
the statements. -/
theorem afterKey_ok {b b' : Lines}
    (h : (do
      let b ← b.pushAll ["pub const COLUMN_COUNT: usize = " ++
        toString (t.columns.map fun c : Column => quoted c.name).length ++ ";", ""]
      (← tableStatements t).foldlM (fun (b : Lines) (name, statements) => do
        b.push (constant name (← statementText s statements))) b) = .ok b') :
    ∃ statements lines, tableStatements t = .ok statements ∧
      List.Forall₂ (StatementLine s) statements lines ∧
      b'.lines = b.lines ++ ["pub const COLUMN_COUNT: usize = " ++ toString t.columns.length ++ ";",
        ""] ++ lines := by
  obtain ⟨b₁, hcount, h⟩ := Attempt.bind_eq_ok.1 h
  obtain ⟨statements, hstatements, h⟩ := Attempt.bind_eq_ok.1 h
  obtain ⟨lines, hlines, hb⟩ := declareStatements_ok h
  rw [List.length_map] at hcount
  rw [Lines.pushAll_lines hcount] at hb
  exact ⟨statements, lines, hstatements, hlines, hb⟩

/-- A table declares its own names, and then its statements. -/
theorem tableConstants_ok {b : Lines} (h : tableConstants s t = .ok b) :
    ∃ key? statements lines, tableStatements t = .ok statements ∧
      List.Forall₂ (StatementLine s) statements lines ∧ b.lines = nameLines t key? ++ lines := by
  obtain ⟨b₁, hnames, h⟩ := Attempt.bind_eq_ok.1 h
  have hfirst := Lines.pushAll_lines hnames
  rw [List.length_map] at hfirst
  cases hprimary : t.primaryKey? with
  | none =>
      rw [hprimary] at h
      obtain ⟨statements, lines, hstatements, hlines, hb⟩ := afterKey_ok h
      refine ⟨none, statements, lines, hstatements, hlines, ?_⟩
      rw [hb, hfirst]
      rfl
  | some key =>
      rw [hprimary] at h
      obtain ⟨c, -, h⟩ := Attempt.bind_eq_ok.1 h
      obtain ⟨b₂, hpush, h⟩ := Attempt.bind_eq_ok.1 h
      obtain ⟨-, rfl⟩ := Lines.push_eq_ok.1 hpush
      obtain ⟨statements, lines, hstatements, hlines, hb⟩ := afterKey_ok h
      refine ⟨some c, statements, lines, hstatements, hlines, ?_⟩
      rw [hb, hfirst]
      rfl

-- ============================================================ functions

/-- The lines of a function: the first declares its name, and no other
begins like a declaration. -/
def FunctionLines (name : String) (lines : List String) : Prop :=
  ∃ first rest, lines = first :: rest ∧ Declares "pub fn " '(' name first ∧
    ∀ line ∈ rest, line.toList.head? ≠ some 'p'

theorem head?_indentLine (line : String) : (Lines.indentLine 1 line).toList.head? ≠ some 'p' := by
  unfold Lines.indentLine
  by_cases hempty : line.isEmpty = true
  · obtain rfl := String.isEmpty_iff.1 hempty
    decide
  · have hindent : indentation 1 = "    " := by rfl
    rw [if_neg hempty, hindent]
    exact head?_append rfl (by decide) line

theorem functionLines_block {name opening : String} (h : Declares "pub fn " '(' name opening)
    (body : List String) : FunctionLines name (blockLines opening body "\x7d") := by
  refine ⟨opening, _, rfl, h, ?_⟩
  intro line hline
  rcases List.mem_append.1 hline with hbody | hclosing
  · obtain ⟨line', -, rfl⟩ := List.mem_map.1 hbody
    exact head?_indentLine line'
  · rw [List.mem_singleton.1 hclosing]
    decide

section

variable {u u' : Uses} {b : Lines}

theorem policyFunction_ok {name result : String} {arm : FollowPolicy → String}
    (h : policyFunction name result arm u = .ok (b, u')) : FunctionLines name b.lines := by
  obtain ⟨policyType, u₁, -, h⟩ := Writer.bind_eq_ok.1 h
  obtain ⟨arms, u₂, -, h⟩ := Writer.bind_eq_ok.1 h
  obtain ⟨body, u₃, -, h⟩ := Writer.bind_eq_ok.1 h
  rw [block_lines (Writer.lift_eq_ok.1 h).1]
  apply functionLines_block
  unfold Declares
  simp only [String.toList_append, List.append_assoc]
  exact ⟨_, rfl⟩

theorem createTableFunction_ok (h : createTableFunction s t u = .ok (b, u')) :
    FunctionLines "create_table" b.lines := by
  obtain ⟨flavorType, u₁, -, h⟩ := Writer.bind_eq_ok.1 h
  obtain ⟨arms, u₂, -, h⟩ := Writer.bind_eq_ok.1 h
  obtain ⟨body, u₃, -, h⟩ := Writer.bind_eq_ok.1 h
  rw [block_lines (Writer.lift_eq_ok.1 h).1]
  apply functionLines_block
  unfold Declares
  simp only [String.toList_append, List.append_assoc]
  exact ⟨_, rfl⟩

theorem valuesFunction_lines {name model : String} {fields : List TableField}
    (h : valuesFunction target name model fields u = .ok (b, u')) : FunctionLines name b.lines := by
  obtain ⟨names, -, hlines⟩ := valuesFunction_ok h
  rw [hlines]
  apply functionLines_block
  unfold Declares
  simp only [String.toList_append, List.append_assoc]
  exact ⟨_, rfl⟩

theorem fromRowFunction_ok {model : String} (h : fromRowFunction s target t model u = .ok (b, u')) :
    FunctionLines "from_row" b.lines := by
  obtain ⟨row, u₁, -, h⟩ := Writer.bind_eq_ok.1 h
  obtain ⟨policyType, u₂, -, h⟩ := Writer.bind_eq_ok.1 h
  obtain ⟨rowError, u₃, -, h⟩ := Writer.bind_eq_ok.1 h
  obtain ⟨fields, u₄, -, h⟩ := Writer.bind_eq_ok.1 h
  obtain ⟨literal, u₅, -, h⟩ := Writer.bind_eq_ok.1 h
  obtain ⟨signature, u₆, hsignature, h⟩ := Writer.bind_eq_ok.1 h
  obtain ⟨-, rfl⟩ := Lines.push_eq_ok.1 (Writer.lift_eq_ok.1 h).1
  have hlines := Lines.pushAll_lines (Writer.lift_eq_ok.1 hsignature).1
  show FunctionLines "from_row" (signature.lines ++ literal.lines.map (Lines.indentLine 1) ++ ["\x7d"])
  rw [hlines]
  refine ⟨_, _, rfl, ⟨[], rfl⟩, ?_⟩
  show ∀ line ∈ _ ++ literal.lines.map (Lines.indentLine 1) ++ ["\x7d"], _
  simp only [List.forall_mem_append, List.forall_mem_cons, String.append_assoc]
  refine ⟨⟨⟨?_, ?_, by decide, ?_, fun _ h => nomatch h⟩, ?_⟩, by decide, fun _ h => nomatch h⟩
  · exact head?_append rfl (by decide) _
  · exact head?_append rfl (by decide) _
  · exact head?_append rfl (by decide) _
  · intro line hline
    obtain ⟨line', -, rfl⟩ := List.mem_map.1 hline
    exact head?_indentLine line'

/-- The names of functions. -/
def functionNames : List String :=
  ["select", "select_by_pk", "column_count", "create_table", "values", "values_for_update",
    "from_row"]

theorem parenthesis_notMem {name : String} (h : name ∈ functionNames) : '(' ∉ name.toList := by
  have hall : ∀ name ∈ functionNames, '(' ∉ name.toList := by decide
  exact hall name h

/-- A table has the function that selects by the key if there is a key. -/
theorem selectByKeyFunction_ok {byKey? : Option Lines} {write : Writer Lines}
    (h : (if t.primaryKey?.isSome then some <$> write else pure none) u = .ok (byKey?, u'))
    (hwrite : ∀ b, write u = .ok (b, u') → FunctionLines "select_by_pk" b.lines) :
    ∀ b, byKey? = some b → FunctionLines "select_by_pk" b.lines := by
  rintro b rfl
  by_cases hprimary : t.primaryKey?.isSome = true
  · rw [if_pos hprimary] at h
    obtain ⟨b', hb, heq⟩ := Writer.map_eq_ok.1 h
    rw [Option.some.inj heq]
    exact hwrite b' hb
  · rw [if_neg hprimary] at h
    cases (Writer.pure_eq_ok.1 h).1

/-- A table has the function that makes the parameters of an update exactly
if there are fields to update. -/
def UpdateFunction (target : Target) (t : Table) (model : String) (update? : Option Lines) :
    Prop :=
  updateFields? t = none ∧ update? = none ∨
    ∃ fields b v v', updateFields? t = some fields ∧ update? = some b ∧
      valuesFunction target "values_for_update" model fields v = .ok (b, v')

/-- Whether there is an update or not, what follows is the same. -/
theorem updateFunction_ok {model : String} {f : Option Lines → Writer (List Lines)}
    {functions : List Lines}
    (h : (match updateFields? t with
      | some fields => some <$> valuesFunction target "values_for_update" model fields >>= f
      | none => pure none >>= f) u = .ok (functions, u')) :
    ∃ update? v, UpdateFunction target t model update? ∧ f update? v = .ok (functions, u') := by
  cases hfields : updateFields? t with
  | none =>
      rw [hfields] at h
      obtain ⟨update?, u₁, hnone, h⟩ := Writer.bind_eq_ok.1 h
      obtain ⟨rfl, -⟩ := Writer.pure_eq_ok.1 hnone
      exact ⟨none, u₁, Or.inl ⟨hfields, rfl⟩, h⟩
  | some fields =>
      rw [hfields] at h
      obtain ⟨update?, u₁, hsome, h⟩ := Writer.bind_eq_ok.1 h
      obtain ⟨b, hb, rfl⟩ := Writer.map_eq_ok.1 hsome
      exact ⟨some b, u₁, Or.inr ⟨fields, b, u, u₁, hfields, rfl, hb⟩, h⟩

/-- Functions of a table by their names. -/
def namedFunctions (select : Lines) (byKey? : Option Lines) (columnCount create values : Lines)
    (update? : Option Lines) (fromRow : Lines) : List (String × Lines) :=
  ("select", select) :: byKey?.toList.map (("select_by_pk", ·)) ++
    [("column_count", columnCount), ("create_table", create), ("values", values)] ++
    update?.toList.map (("values_for_update", ·)) ++ [("from_row", fromRow)]

/-- Only the function of an update has its name. -/
theorem update_mem_namedFunctions {select columnCount create values fromRow : Lines}
    {byKey? update? : Option Lines} :
    ("values_for_update", b) ∈
        namedFunctions select byKey? columnCount create values update? fromRow ↔
      update? = some b := by
  unfold namedFunctions
  constructor
  · intro hb
    simp only [List.mem_append, List.mem_cons, List.not_mem_nil, or_false, List.mem_map,
      Option.mem_toList, Prod.mk.injEq] at hb
    rcases hb with
      (((⟨h, -⟩ | ⟨_, -, h, -⟩) | ⟨h, -⟩ | ⟨h, -⟩ | ⟨h, -⟩) | ⟨b', hb', -, rfl⟩) | ⟨h, -⟩
    · exact absurd h (by decide)
    · exact absurd h (by decide)
    · exact absurd h (by decide)
    · exact absurd h (by decide)
    · exact absurd h (by decide)
    · exact hb'
    · exact absurd h (by decide)
  · rintro rfl
    exact List.mem_append_left _ (List.mem_append_right _ (List.mem_singleton_self _))

/-- The functions of a table have names, and the one that makes the
parameters of an update is among them if there are fields to update. -/
theorem tableFunctions_ok {model : String} {functions : List Lines}
    (h : tableFunctions s target t model u = .ok (functions, u')) :
    ∃ named : List (String × Lines), functions = named.map (·.2) ∧
      (∀ entry ∈ named, entry.1 ∈ functionNames ∧ FunctionLines entry.1 entry.2.lines) ∧
      (∀ b, ("values_for_update", b) ∈ named → ∃ fields, updateFields? t = some fields) ∧
      ∀ fields, updateFields? t = some fields → ∃ b v v', ("values_for_update", b) ∈ named ∧
        valuesFunction target "values_for_update" model fields v = .ok (b, v') := by
  obtain ⟨select, u₁, hselect, h⟩ := Writer.bind_eq_ok.1 h
  obtain ⟨byKey?, u₂, hbyKey, h⟩ := Writer.ite_bind_eq_ok.1 h
  obtain ⟨columnCount, u₃, hcount, h⟩ := Writer.bind_eq_ok.1 h
  obtain ⟨create, u₄, hcreate, h⟩ := Writer.bind_eq_ok.1 h
  obtain ⟨values, u₅, hvalues, h⟩ := Writer.bind_eq_ok.1 h
  obtain ⟨update?, u₆, hupdate, h⟩ := updateFunction_ok h
  obtain ⟨fromRow, u₇, hfromRow, h⟩ := Writer.bind_eq_ok.1 h
  obtain ⟨rfl, -⟩ := Writer.pure_eq_ok.1 h
  have hkey := selectByKeyFunction_ok hbyKey fun b hb => policyFunction_ok hb
  refine ⟨namedFunctions select byKey? columnCount create values update? fromRow, ?_, ?_, ?_, ?_⟩
  · cases byKey? with
    | _ => cases update? with
      | _ => rfl
  · intro entry hentry
    simp only [namedFunctions, List.mem_append, List.mem_cons, List.not_mem_nil, or_false,
      List.mem_map, Option.mem_toList] at hentry
    rcases hentry with (((rfl | ⟨b, hb, rfl⟩) | rfl | rfl | rfl) | ⟨b, hb, rfl⟩) | rfl
    · exact ⟨(by decide : "select" ∈ functionNames), policyFunction_ok hselect⟩
    · exact ⟨(by decide : "select_by_pk" ∈ functionNames), hkey b hb⟩
    · exact ⟨(by decide : "column_count" ∈ functionNames), policyFunction_ok hcount⟩
    · exact ⟨(by decide : "create_table" ∈ functionNames), createTableFunction_ok hcreate⟩
    · exact ⟨(by decide : "values" ∈ functionNames), valuesFunction_lines hvalues⟩
    · rcases hupdate with ⟨-, hnone⟩ | ⟨fields, b', v, v', -, hsome, hwritten⟩
      · cases hb.symm.trans hnone
      · obtain rfl := Option.some.inj (hb.symm.trans hsome)
        exact ⟨(by decide : "values_for_update" ∈ functionNames), valuesFunction_lines hwritten⟩
    · exact ⟨(by decide : "from_row" ∈ functionNames), fromRowFunction_ok hfromRow⟩
  · intro b hb
    have hsome := update_mem_namedFunctions.1 hb
    rcases hupdate with ⟨-, hnone⟩ | ⟨fields, -, -, -, hfields, -, -⟩
    · cases hsome.symm.trans hnone
    · exact ⟨fields, hfields⟩
  · intro fields hfields
    rcases hupdate with ⟨hnone, -⟩ | ⟨fields', b, v, v', hfields', hsome, hwritten⟩
    · cases hfields.symm.trans hnone
    · obtain rfl := Option.some.inj (hfields.symm.trans hfields')
      exact ⟨b, v, v', update_mem_namedFunctions.2 hsome, hwritten⟩

end

-- ============================================================= the unit

/-- The lines of the unit of a table: what every unit begins with, and the
accessor, which has its constants before its functions. -/
def unitLines (t : Table) (uses : Uses) (constants : Lines) (functions : List Lines) :
    List String :=
  [header, ""] ++ uses.declarations ++ ["", "pub struct " ++ t.accessor ++ ";", ""] ++
    blockLines ("impl " ++ t.accessor ++ " \x7b")
      (constants.lines ++ functions.flatMap fun f => "" :: f.lines) "\x7d"

/-- A file is the unit of a table, with the given constants and
functions. -/
structure UnitOf (s : Schema) (target : Target) (t : Table) (file : SourceFile) (uses : Uses)
    (model : String) (constants : Lines) (functions : List Lines) : Prop where
  constants_eq : tableConstants s t = .ok constants
  functions_eq : ∃ u u', tableFunctions s target t model u = .ok (functions, u')
  content_eq : file.content = String.intercalate "\n" (unitLines t uses constants functions) ++ "\n"

/-- The functions follow on the constants, each after an empty line. This
needs no names. -/
theorem appendFunctions_ok {functions : List Lines} {b b' : Lines} {u u' : Uses}
    (h : functions.foldlM (fun (items : Lines) f =>
      (do return (← items.push "") ++ f : Writer Lines)) b u = .ok (b', u')) :
    b'.lines = b.lines ++ (functions.flatMap fun f => "" :: f.lines) ∧ u' = u := by
  induction functions generalizing b u with
  | nil =>
      obtain ⟨rfl, rfl⟩ := Writer.pure_eq_ok.1 h
      exact ⟨(List.append_nil _).symm, rfl⟩
  | cons f functions ih =>
      obtain ⟨b₁, u₁, hfirst, hrest⟩ := Writer.bind_eq_ok.1 h
      obtain ⟨b₂, u₂, hpush, hpure⟩ := Writer.bind_eq_ok.1 hfirst
      obtain ⟨rfl, rfl⟩ := Writer.pure_eq_ok.1 hpure
      obtain ⟨hline, rfl⟩ := Writer.lift_eq_ok.1 hpush
      obtain ⟨-, rfl⟩ := Lines.push_eq_ok.1 hline
      obtain ⟨hlines, rfl⟩ := ih hrest
      rw [hlines, List.flatMap_cons, Lines.lines_append, List.append_assoc, List.append_assoc]
      exact ⟨rfl, rfl⟩

/-- The unit of a table has its constants and functions in it, which are
written after the model got its name. After that no more names are brought
into scope. -/
theorem tableUnit_lines {file : SourceFile} (h : tableUnit s target t = .ok file) :
    ∃ model u constants functions uses,
      Writer.path (cratePath t.model) (.start target.runtime t.accessor) = .ok (model, u) ∧
      tableConstants s t = .ok constants ∧
      tableFunctions s target t model u = .ok (functions, uses) ∧
      file.content = String.intercalate "\n" (unitLines t uses constants functions) ++ "\n" := by
  obtain ⟨⟨body, uses⟩, hbody, hfile⟩ := Attempt.bind_eq_ok.1 h
  obtain ⟨model, u, hmodel, h⟩ := Writer.bind_eq_ok.1 hbody
  obtain ⟨constants, u₁, hlift, h⟩ := Writer.bind_eq_ok.1 h
  obtain ⟨functions, u₂, hfunctions, h⟩ := Writer.bind_eq_ok.1 h
  obtain ⟨items, u₃, hitems, h⟩ := Writer.bind_eq_ok.1 h
  obtain ⟨declaration, u₄, hdeclaration, h⟩ := Writer.bind_eq_ok.1 h
  obtain ⟨accessor, u₅, haccessor, h⟩ := Writer.bind_eq_ok.1 h
  obtain ⟨rfl, rfl⟩ := Writer.pure_eq_ok.1 h
  obtain ⟨hblock, rfl⟩ := Writer.lift_eq_ok.1 haccessor
  obtain ⟨hpush, rfl⟩ := Writer.lift_eq_ok.1 hdeclaration
  obtain ⟨hlines, rfl⟩ := appendFunctions_ok hitems
  obtain ⟨hconstants, rfl⟩ := Writer.lift_eq_ok.1 hlift
  refine ⟨model, _, constants, functions, _, hmodel, hconstants, hfunctions, ?_⟩
  obtain ⟨top, htop, hfile⟩ := Attempt.bind_eq_ok.1 hfile
  obtain ⟨declarations, hdeclarations, hfile⟩ := Attempt.bind_eq_ok.1 hfile
  obtain ⟨content, hcontent, hfile⟩ := Attempt.bind_eq_ok.1 hfile
  obtain rfl := Attempt.pure_eq_ok.1 hfile
  obtain ⟨-, rfl⟩ := Lines.push_eq_ok.1 hcontent
  show String.intercalate "\n" (top.lines ++ declarations.lines ++ [""] ++
    (declaration.lines ++ accessor.lines)) ++ "\n" = _
  have hempty : Lines.empty.lines = [] := rfl
  rw [Lines.pushAll_lines htop, Lines.pushAll_lines hdeclarations, Lines.pushAll_lines hpush,
    block_lines hblock, hlines, hempty]
  unfold unitLines
  simp only [List.nil_append, List.append_assoc, List.cons_append]

theorem tableUnit_ok {file : SourceFile} (h : tableUnit s target t = .ok file) :
    ∃ uses model constants functions, UnitOf s target t file uses model constants functions := by
  obtain ⟨model, u, constants, functions, uses, -, hconstants, hfunctions, hcontent⟩ :=
    tableUnit_lines h
  exact ⟨uses, model, constants, functions, hconstants, ⟨u, uses, hfunctions⟩, hcontent⟩

theorem head?_declarations (uses : Uses) :
    ∀ line ∈ uses.declarations, line.toList.head? ≠ some ' ' := by
  intro line hline
  unfold Uses.declarations at hline
  rcases List.mem_append.1 hline with hruntime | hpath
  · unfold Uses.runtimeLine at hruntime
    split at hruntime
    case h_1 => cases hruntime
    case h_2 =>
      rw [List.mem_singleton.1 hruntime]
      simp only [String.append_assoc]
      exact head?_append rfl (by decide) _
    case h_3 =>
      rw [List.mem_singleton.1 hruntime]
      simp only [String.append_assoc]
      exact head?_append rfl (by decide) _
  · obtain ⟨path, -, rfl⟩ := List.mem_map.1 hpath
    simp only [String.append_assoc]
    exact head?_append rfl (by decide) _

section

variable {uses : Uses} {constants : Lines} {functions : List Lines} {opening indented name line : String}
  {mark : Char}

/-- What a unit declares inside of its accessor is declared by one of the
lines of its constants and functions. -/
theorem exists_item (hindented : indented = "    " ++ opening)
    (hline : line ∈ unitLines t uses constants functions)
    (hdeclares : Declares indented mark name line) :
    ∃ item ∈ constants.lines ++ functions.flatMap fun f => "" :: f.lines,
      line = Lines.indentLine 1 item ∧ Declares opening mark name item := by
  have hspace : ∃ cs, indented.toList = ' ' :: cs := by
    rw [hindented, String.toList_append]
    exact ⟨_, rfl⟩
  obtain ⟨cs, hspace⟩ := hspace
  -- a line outside does not begin with a space
  have houtside : ¬ line.toList.head? ≠ some ' ' := fun h =>
    not_declares_of_head? hspace h hdeclares
  have htop : ∀ line ∈ [header, ""] ++ uses.declarations ++
      ["", "pub struct " ++ t.accessor ++ ";", ""], line.toList.head? ≠ some ' ' := by
    simp only [List.forall_mem_append, List.forall_mem_cons, String.append_assoc]
    refine ⟨⟨⟨by decide, by decide, fun _ h => nomatch h⟩, head?_declarations uses⟩, by decide, ?_,
      by decide, fun _ h => nomatch h⟩
    exact head?_append rfl (by decide) _
  rcases List.mem_append.1 hline with hbefore | hblock
  · exact absurd (htop line hbefore) houtside
  rcases List.mem_append.1 hblock with hbody | hclosing
  · rcases List.mem_cons.1 hbody with rfl | hitem
    · rw [String.append_assoc] at houtside
      exact absurd (head?_append rfl (by decide) _) houtside
    · obtain ⟨item, hmem, rfl⟩ := List.mem_map.1 hitem
      exact ⟨item, hmem, rfl, (declares_indentLine hindented).1 hdeclares⟩
  · rw [List.mem_singleton.1 hclosing] at houtside
    exact absurd (by decide) houtside

theorem item_mem {item : String}
    (h : item ∈ constants.lines ++ functions.flatMap fun f => "" :: f.lines) :
    Lines.indentLine 1 item ∈ unitLines t uses constants functions := by
  have hbody := List.mem_map_of_mem (f := Lines.indentLine 1) h
  exact List.mem_append_right _ (List.mem_append_left _ (List.mem_cons_of_mem _ hbody))

/-- The lines of a function stand together. -/
theorem function_infix {f : Lines} (hf : f ∈ functions) :
    ∃ before after, unitLines t uses constants functions =
      before ++ f.lines.map (Lines.indentLine 1) ++ after := by
  obtain ⟨before, after, rfl⟩ := List.append_of_mem hf
  refine ⟨[header, ""] ++ uses.declarations ++ ["", "pub struct " ++ t.accessor ++ ";", ""] ++
    ("impl " ++ t.accessor ++ " \x7b") :: (constants.lines ++
      (before.flatMap fun f => "" :: f.lines) ++ [""]).map (Lines.indentLine 1),
    (after.flatMap fun f => "" :: f.lines).map (Lines.indentLine 1) ++ ["\x7d"], ?_⟩
  unfold unitLines blockLines
  simp only [List.flatMap_append, List.flatMap_cons, List.map_append, List.append_assoc,
    List.cons_append, List.map_cons, List.map_nil, List.nil_append]

/-- A line does not declare both a constant and a function. -/
theorem not_declares_both {name name' : String} (h : Declares "pub const " ':' name line)
    (h' : Declares "pub fn " '(' name' line) : False := by
  obtain ⟨rest, hconstant⟩ := h
  obtain ⟨rest', hfunction⟩ := h'
  have hfifth := congrArg (fun chars => chars[4]?) (hconstant.symm.trans hfunction)
  exact absurd (Option.some.inj hfifth) (by decide)

/-- The lines of a function declare no constant. -/
theorem FunctionLines.not_declares {item : String} {lines : List String}
    (h : FunctionLines name lines) (hitem : item ∈ lines) (name' : String) :
    ¬ Declares "pub const " ':' name' item := by
  obtain ⟨first, rest, rfl, hfirst, hrest⟩ := h
  intro hdeclares
  rcases List.mem_cons.1 hitem with rfl | hitem
  · exact not_declares_both hdeclares hfirst
  · have hopening : "pub const ".toList = 'p' :: "ub const ".toList := by rfl
    exact not_declares_of_head? hopening (hrest item hitem) hdeclares

/-- Only the first line of a function declares one, by its name. -/
theorem FunctionLines.name_eq {item name' : String} {lines : List String}
    (h : FunctionLines name lines) (hitem : item ∈ lines)
    (hdeclares : Declares "pub fn " '(' name' item) (hname' : '(' ∉ name'.toList)
    (hname : '(' ∉ name.toList) : name' = name := by
  obtain ⟨first, rest, rfl, hfirst, hrest⟩ := h
  rcases List.mem_cons.1 hitem with rfl | hitem
  · exact hdeclares.unique hfirst hname' hname
  · have hopening : "pub fn ".toList = 'p' :: "ub fn ".toList := by rfl
    exact absurd hdeclares (not_declares_of_head? hopening (hrest item hitem))

theorem indent_constant (name text : String) :
    Lines.indentLine 1 (constant name text) = "    " ++ constant name text := by
  have hsome : ¬ (constant name text).isEmpty = true := by
    intro hempty
    have hdeclares := declares_constant name text
    rw [String.isEmpty_iff.1 hempty] at hdeclares
    exact not_declares_empty _ _ _ hdeclares
  unfold Lines.indentLine
  rw [if_neg hsome]
  rfl

section

variable {file : SourceFile} {model : String}
  (h : UnitOf s target t file uses model constants functions)

include h

/-- The functions of a table declare no constant. -/
theorem UnitOf.function_not_declares {item : String}
    (hitem : item ∈ functions.flatMap fun f => "" :: f.lines) (name : String) :
    ¬ Declares "pub const " ':' name item := by
  obtain ⟨u, u', hfunctions⟩ := h.functions_eq
  obtain ⟨named, rfl, hnamed, -, -⟩ := tableFunctions_ok hfunctions
  obtain ⟨f, hf, hline⟩ := List.mem_flatMap.1 hitem
  rcases List.mem_cons.1 hline with rfl | hline
  · exact not_declares_empty _ _ _
  · obtain ⟨entry, hentry, rfl⟩ := List.mem_map.1 hf
    obtain ⟨-, hlines⟩ := hnamed entry hentry
    exact hlines.not_declares hline name

/-- The constants of a table declare no function. -/
theorem UnitOf.constant_not_declares {item : String} (hitem : item ∈ constants.lines)
    (name : String) : ¬ Declares "pub fn " '(' name item := by
  obtain ⟨key?, entries, lines, -, hlines, hconstants⟩ := tableConstants_ok h.constants_eq
  rw [hconstants] at hitem
  rcases List.mem_append.1 hitem with hown | hline
  · rcases declares_of_mem_nameLines hown with rfl | ⟨own, -, hown⟩
    · exact not_declares_empty _ _ _
    · exact not_declares_both hown
  · obtain ⟨entry, -, text, -, rfl⟩ := Related.exists_mem hlines.flip hline
    exact not_declares_both (declares_constant ..)

/-- A unit declares a constant for each of the statements of its table. -/
theorem UnitOf.exists_constant {entries : List (String × List Sql.Statement)}
    (hentries : tableStatements t = .ok entries) {statements : List Sql.Statement}
    (hentry : (name, statements) ∈ entries) :
    ∃ line ∈ unitLines t uses constants functions, Declares "    pub const " ':' name line := by
  have hindented : "    pub const " = "    " ++ "pub const " := by rfl
  obtain ⟨key?, entries', lines, hentries', hlines, hconstants⟩ := tableConstants_ok h.constants_eq
  obtain rfl := Except.ok.inj (hentries.symm.trans hentries')
  obtain ⟨line, hline, text, -, rfl⟩ := Related.exists_mem hlines hentry
  have hmem : constant name text ∈ constants.lines := by
    rw [hconstants]
    exact List.mem_append_right _ hline
  exact ⟨_, item_mem (List.mem_append_left _ hmem),
    (declares_indentLine hindented).2 (declares_constant ..)⟩

/-- A constant that a unit declares under the name of a statement has the
text of this statement. -/
theorem UnitOf.constant_of_declares {entries : List (String × List Sql.Statement)}
    (hentries : tableStatements t = .ok entries)
    (hline : line ∈ unitLines t uses constants functions)
    (hdeclares : Declares "    pub const " ':' name line) (hname : name ∈ statementNames) :
    ∃ statements text, (name, statements) ∈ entries ∧ statementText s statements = .ok text ∧
      line = "    " ++ constant name text := by
  have hindented : "    pub const " = "    " ++ "pub const " := by rfl
  have hmark := colon_notMem (List.mem_append_right _ hname)
  obtain ⟨item, hitem, rfl, hitemDeclares⟩ := exists_item hindented hline hdeclares
  rcases List.mem_append.1 hitem with hconstant | hfunction
  · obtain ⟨key?, entries', lines, hentries', hlines, hconstants⟩ :=
      tableConstants_ok h.constants_eq
    obtain rfl := Except.ok.inj (hentries.symm.trans hentries')
    rw [hconstants] at hconstant
    rcases List.mem_append.1 hconstant with hown | hitem
    · rcases declares_of_mem_nameLines hown with rfl | ⟨own, hmem, hown⟩
      · exact absurd hitemDeclares (not_declares_empty _ _ _)
      · obtain rfl := hitemDeclares.unique hown hmark (colon_notMem (List.mem_append_left _ hmem))
        exact absurd hname (notMem_statementNames hmem)
    · obtain ⟨⟨name', statements⟩, hentry, text, htext, rfl⟩ :=
        Related.exists_mem hlines.flip hitem
      have hname' := tableStatements_names hentries _ hentry
      obtain rfl := hitemDeclares.unique (declares_constant ..) hmark
        (colon_notMem (List.mem_append_right _ hname'))
      exact ⟨statements, text, hentry, htext, indent_constant ..⟩
  · exact absurd hitemDeclares (h.function_not_declares hfunction _)

/-- If a table has fields to update, its unit holds the function that makes
the parameters for them. -/
theorem UnitOf.function_lines {fields : List TableField} (hfields : updateFields? t = some fields) :
    ∃ b v v' before after, valuesFunction target "values_for_update" model fields v = .ok (b, v') ∧
      unitLines t uses constants functions =
        before ++ b.lines.map (Lines.indentLine 1) ++ after := by
  obtain ⟨u, u', hfunctions⟩ := h.functions_eq
  obtain ⟨named, rfl, -, -, hsome⟩ := tableFunctions_ok hfunctions
  obtain ⟨b, v, v', hmem, hb⟩ := hsome fields hfields
  obtain ⟨before, after, hlines⟩ := function_infix (List.mem_map_of_mem hmem)
  exact ⟨b, v, v', before, after, hb, hlines⟩

/-- A unit declares the function that makes the parameters of an update if
there are fields for it. -/
theorem UnitOf.declares_function_iff :
    (∃ line ∈ unitLines t uses constants functions,
        Declares "    pub fn " '(' "values_for_update" line) ↔
      ∃ fields, updateFields? t = some fields := by
  have hindented : "    pub fn " = "    " ++ "pub fn " := by rfl
  constructor
  · rintro ⟨line, hline, hdeclares⟩
    obtain ⟨item, hitem, -, hitemDeclares⟩ := exists_item hindented hline hdeclares
    rcases List.mem_append.1 hitem with hconstant | hfunction
    · exact absurd hitemDeclares (h.constant_not_declares hconstant _)
    obtain ⟨u, u', hfunctions⟩ := h.functions_eq
    obtain ⟨named, rfl, hnamed, hupdate, -⟩ := tableFunctions_ok hfunctions
    obtain ⟨f, hf, hown⟩ := List.mem_flatMap.1 hfunction
    rcases List.mem_cons.1 hown with rfl | hown
    · exact absurd hitemDeclares (not_declares_empty _ _ _)
    obtain ⟨⟨name, f⟩, hentry, rfl⟩ := List.mem_map.1 hf
    obtain ⟨hname, hlines⟩ := hnamed _ hentry
    obtain rfl := hlines.name_eq hown hitemDeclares (by decide) (parenthesis_notMem hname)
    exact hupdate f hentry
  · rintro ⟨fields, hfields⟩
    obtain ⟨b, v, v', before, after, hb, hlines⟩ := h.function_lines hfields
    obtain ⟨first, rest, hfirst, hdeclares, -⟩ := valuesFunction_lines hb
    refine ⟨Lines.indentLine 1 first, ?_, (declares_indentLine hindented).2 hdeclares⟩
    rw [hlines, hfirst]
    exact List.mem_append_left _ (List.mem_append_right _ List.mem_cons_self)

end

end

end Emit

end Rowsmith

/-
What the statement that creates a table says, line by line. Between the
line that opens it and the line that closes it, there is one definition to
a line, and every line but the last has a comma after its definition.

The definitions come in three groups. First there is one for each column
of the table. What follows on its name and its type is a list of marks,
and which marks these are is read off the field that the column belongs to
(`ColumnLine.Exact`): a default belongs to the column at its position, and
a column is marked as unique only if its field has no other. Then there is
a constraint for each unique field of several columns, and at last, if
asked for, a clause for each reference.

So a unique field is marked in one of two places, by its only column or by
a constraint. That there is always exactly one of them (`Declares.once`)
needs that no field is without columns, and that a default belongs to one
column only needs that no column of a field is there twice. Both are true
of the tables of a resolved schema.

Main result: `createTable_declares`.
-/
import Rowsmith.Proofs.Resolve.Accepted
import Rowsmith.Proofs.Sql.NotNull
import Rowsmith.Proofs.Sql.Rendering

namespace Rowsmith.Sql

open Text

variable {s : Schema} {t : Table} {flavor : Flavor} {f : TableField} {c : Column}
  {initial : Option String} {foreignKeys : Bool}

-- ================================================================ marks

/-- What a column can be marked as, in the order in which the marks
follow on its name and its type. -/
inductive Mark
  | notNull
  | primaryKey
  | numbered
  | initial (expr : String)
  | unique
deriving DecidableEq

namespace Mark

def text : Mark → String
  | .notNull => " NOT NULL"
  | .primaryKey => " PRIMARY KEY"
  | .numbered => " AUTO_INCREMENT"
  | .initial expr => " DEFAULT (" ++ expr ++ ")"
  | .unique => " UNIQUE"

def rank : Mark → Nat
  | .notNull => 0
  | .primaryKey => 1
  | .numbered => 2
  | .initial _ => 3
  | .unique => 4

end Mark

/-- The database numbers the rows by this column. -/
def Numbers (flavor : Flavor) (f : TableField) (c : Column) : Prop :=
  flavor = .mysql ∧ f.primaryKey = true ∧ (c.storage = .int ∨ c.storage = .long)

theorem isAutoIncrement_iff : isAutoIncrement flavor f c = true ↔ Numbers flavor f c := by
  unfold isAutoIncrement Numbers
  rw [Bool.and_eq_true, Bool.and_eq_true, Bool.or_eq_true, beq_iff_eq, beq_iff_eq, beq_iff_eq]
  exact ⟨fun ⟨⟨hkey, hflavor⟩, hstorage⟩ => ⟨hflavor, hkey, hstorage⟩,
    fun ⟨hflavor, hkey, hstorage⟩ => ⟨⟨hkey, hflavor⟩, hstorage⟩⟩

/-- A field declares a default for one of its columns: the one at the
position of the column. -/
def OwnDefault (f : TableField) (c : Column) (expr : String) : Prop :=
  ∃ i : Nat, f.columns[i]? = some c ∧ f.defaults[i]? = some expr

/-- The definition of a column: the field it belongs to, and the marks it
carries. -/
structure ColumnLine where
  field : TableField
  column : Column
  marks : List Mark

namespace ColumnLine

def owner (l : ColumnLine) : TableField × Column := (l.field, l.column)

def isUnique (l : ColumnLine) : Bool := l.marks.contains .unique

def text (flavor : Flavor) (l : ColumnLine) : String :=
  l.column.name ++ " " ++ flavor.declaredType l.field l.column ++
    String.join (l.marks.map Mark.text)

/-- A column carries the marks that its field asks for, each of them once,
and no others. -/
structure Exact (flavor : Flavor) (l : ColumnLine) : Prop where
  ordered : l.marks.Pairwise fun m m' => m.rank < m'.rank
  notNull : .notNull ∈ l.marks ↔ l.field.nullable = false
  primaryKey : .primaryKey ∈ l.marks ↔ l.field.primaryKey = true
  numbered : .numbered ∈ l.marks ↔ Numbers flavor l.field l.column
  initial : ∀ expr, .initial expr ∈ l.marks ↔
    OwnDefault l.field l.column expr ∧ ¬ Numbers flavor l.field l.column
  unique : .unique ∈ l.marks ↔ l.field.unique = true ∧ l.field.columnCount = 1

end ColumnLine

/-- A mark, if a condition holds. -/
def markIf (condition : Bool) (mark : Mark) : List Mark :=
  if condition then [mark] else []

@[simp] theorem mem_markIf {condition : Bool} {m mark : Mark} :
    m ∈ markIf condition mark ↔ condition = true ∧ m = mark := by
  unfold markIf
  cases condition <;> simp

/-- The marks of a column that is given a default. -/
def marksOf (flavor : Flavor) (f : TableField) (c : Column) (initial : Option String) :
    List Mark :=
  markIf (!f.nullable) .notNull ++ markIf f.primaryKey .primaryKey ++
    markIf (isAutoIncrement flavor f c) .numbered ++
    (initial.toList.flatMap fun expr => markIf (!isAutoIncrement flavor f c) (.initial expr)) ++
    markIf (f.unique && f.columns.length == 1) .unique

theorem marksOf_ordered :
    (marksOf flavor f c initial).Pairwise fun m m' => m.rank < m'.rank := by
  unfold marksOf markIf
  cases initial <;> cases !f.nullable <;> cases f.primaryKey <;>
    cases isAutoIncrement flavor f c <;> cases (f.unique && f.columns.length == 1) <;>
      simp [Mark.rank]

theorem join_markIf (condition : Bool) (mark : Mark) :
    String.join ((markIf condition mark).map Mark.text) = clauseIf condition mark.text := by
  cases condition with
  | true => exact String.empty_append
  | false => rfl

/-- The text of a column is its name, its type and the texts of its
marks. -/
theorem text_column :
    (Definition.column f c initial).text flavor =
      ColumnLine.text flavor ⟨f, c, marksOf flavor f c initial⟩ := by
  unfold Definition.text ColumnLine.text marksOf Flavor.declaredType
  cases initial with
  | none =>
      simp only [Option.toList_none, List.flatMap_nil, List.map_append, List.map_nil,
        String.join_append, String.join_nil, join_markIf, Mark.text, String.append_assoc]
  | some expr =>
      simp only [Option.toList_some, List.flatMap_singleton, List.map_append,
        String.join_append, join_markIf, Mark.text, String.append_assoc]

/-- The marks of a column are those its field asks for, if it is given its
own default. -/
theorem exact_marksOf {i : Nat} (hc : f.columns[i]? = some c) (hnodup : f.columns.Nodup) :
    ColumnLine.Exact flavor ⟨f, c, marksOf flavor f c f.defaults[i]?⟩ := by
  have hown : ∀ expr, OwnDefault f c expr ↔ f.defaults[i]? = some expr := by
    intro expr
    constructor
    · rintro ⟨j, hj, hexpr⟩
      -- no column is there twice
      have hsame : i = j := (List.getElem?_inj (List.getElem?_eq_some_iff.1 hc).1 hnodup).1
        (hc.trans hj.symm)
      rw [hsame]
      exact hexpr
    · exact fun hexpr => ⟨i, hc, hexpr⟩
  have hnumbers := @isAutoIncrement_iff flavor f c
  unfold marksOf
  constructor
  case ordered => exact marksOf_ordered
  case notNull => simp
  case primaryKey => simp
  case numbered => simpa using hnumbers
  case initial =>
    intro expr
    rw [hown, ← hnumbers, Bool.not_eq_true]
    simp only [List.mem_append, mem_markIf, List.mem_flatMap, Option.mem_toList, reduceCtorEq,
      and_false, false_or, or_false, Bool.not_eq_true', Mark.initial.injEq]
    exact ⟨fun ⟨_, hexpr, hnot, hsame⟩ => ⟨hsame ▸ hexpr, hnot⟩,
      fun ⟨hexpr, hnot⟩ => ⟨expr, hexpr, hnot, rfl⟩⟩
  case unique => simp [TableField.columnCount]

-- ============================================================ separators

/-- A text ends in something else than a comma. -/
def isClosed (text : String) : Bool := text.toList.getLast?.any (· != ',')

theorem isClosed_append (before : String) {text : String} (h : isClosed text = true) :
    isClosed (before ++ text) = true := by
  unfold isClosed at h ⊢
  obtain ⟨c, hc, hother⟩ := (Option.any_eq_true _ _).1 h
  rw [String.toList_append, List.getLast?_append, hc]
  exact hother

theorem isClosed_append_join {text : String} (h : isClosed text = true) {texts : List String}
    (htexts : ∀ text ∈ texts, isClosed text = true) :
    isClosed (text ++ String.join texts) = true := by
  induction texts generalizing text with
  | nil =>
      rw [String.join_nil, String.append_empty]
      exact h
  | cons first rest ih =>
      obtain ⟨hfirst, hrest⟩ := List.forall_mem_cons.1 htexts
      rw [String.join_cons, ← String.append_assoc]
      exact ih (isClosed_append text hfirst) hrest

theorem ne_append_comma {text : String} (h : isClosed text = true) (rest : String) :
    text ≠ rest ++ "," := by
  rintro rfl
  have hcomma : isClosed (rest ++ ",") = false := by
    unfold isClosed
    rw [String.toList_append, List.getLast?_append]
    rfl
  exact Bool.noConfusion (h.symm.trans hcomma)

theorem isClosed_declaredType (flavor : Flavor) (f : TableField) (c : Column) :
    isClosed (flavor.declaredType f c) = true := by
  unfold Flavor.declaredType
  cases flavor <;> cases c.storage <;> cases (f.primaryKey || f.isReference) <;> decide

theorem Mark.isClosed_text (m : Mark) : isClosed m.text = true := by
  cases m with
  | initial expr => exact isClosed_append _ (by decide)
  | _ => decide

/-- No definition ends in a comma: a column ends in its type or a mark, and
the others in a parenthesis. -/
theorem Definition.isClosed_text (d : Definition) : isClosed (d.text flavor) = true := by
  cases d with
  | column f c initial =>
      rw [text_column]
      refine isClosed_append_join (isClosed_append _ (isClosed_declaredType flavor f c)) ?_
      exact List.forall_mem_map.2 fun m _ => m.isClosed_text
  | unique columns => exact isClosed_append _ (by decide)
  | reference source target key => exact isClosed_append _ (by decide)

/-- Texts are written one to a line, at one level. Every line but the last
has a comma after its text, and no text ends in a comma itself. -/
structure Separates (texts lines : List String) : Prop where
  length : lines.length = texts.length
  line : ∀ (k : Nat) (text : String), texts[k]? = some text →
    lines[k]? = some ("    " ++ text ++ if k + 1 < texts.length then "," else "")
  closed : ∀ text ∈ texts, ∀ rest, text ≠ rest ++ ","

theorem definitionLines_separates (flavor : Flavor) (defs : List Definition) :
    Separates (defs.map (·.text flavor)) (definitionLines flavor defs) where
  length := (length_definitionLines flavor defs).trans (List.length_map _).symm
  line k text hk := by
    rw [List.getElem?_map] at hk
    obtain ⟨d, hd, rfl⟩ := Option.map_eq_some_iff.1 hk
    rw [List.length_map]
    exact getElem?_definitionLines flavor hd
  closed := List.forall_mem_map.2 fun d _ => ne_append_comma d.isClosed_text

-- ============================================================ definitions

/-- A field is unique over several columns. -/
def SharesUnique (f : TableField) : Bool := f.unique && decide (1 < f.columnCount)

/-- A constraint that lists the columns of a field. -/
def uniqueText (f : TableField) : String :=
  "UNIQUE (" ++ String.intercalate ", " (f.columns.map (·.name)) ++ ")"

/-- A clause by which the only column of a field refers to the primary key
of another table. -/
def DeclaresReference (s : Schema) (f : TableField) (text : String) : Prop :=
  ∃ r source target key column, f.kind = .reference r ∧ f.columns = [source] ∧
    s.tables[r.table]? = some target ∧ target.fields.filter (·.primaryKey) = [key] ∧
    key.columns = [column] ∧
    text = "FOREIGN KEY(" ++ source.name ++ ") REFERENCES " ++ target.name ++ "(" ++
      column.name ++ ")"

/-- What a table is created with: the definitions of its columns, the
fields that have a constraint over several columns, and the texts of its
foreign keys. -/
structure Declares (s : Schema) (flavor : Flavor) (t : Table) (foreignKeys : Bool)
    (columns : List ColumnLine) (shared : List TableField) (references : List String) : Prop where
  -- There is one definition for each column of the table, in their order.
  inOrder : columns.map (·.column) = t.columns
  owners : columns.map ColumnLine.owner = t.owners
  exact : ∀ l ∈ columns, l.Exact flavor
  -- A field gives all of its columns a default, or none.
  defaults : ∀ f ∈ t.fields, f.defaults = [] ∨ f.defaults.length = f.columnCount
  several : shared = t.fields.filter SharesUnique
  -- Each unique field is marked by its only column or by a constraint, and
  -- nothing is marked twice.
  once : ((columns.filter ColumnLine.isUnique).map ColumnLine.field ++ shared).Perm
    (t.fields.filter (·.unique))
  refers : if foreignKeys then
      List.Forall₂ (DeclaresReference s) (t.fields.filter (·.isReference)) references
    else references = []

/-- The definitions of the columns of a field. -/
def columnLines (flavor : Flavor) (f : TableField) : List ColumnLine :=
  f.columns.zipIdx.map fun (c, i) => ⟨f, c, marksOf flavor f c f.defaults[i]?⟩

theorem columnLines_owners (f : TableField) :
    (columnLines flavor f).map ColumnLine.owner = f.columns.map fun c => (f, c) := by
  unfold columnLines
  calc (f.columns.zipIdx.map _).map ColumnLine.owner
      = (f.columns.zipIdx.map Prod.fst).map fun c => (f, c) := by
        rw [List.map_map, List.map_map]
        rfl
    _ = f.columns.map fun c => (f, c) := by rw [List.zipIdx_map_fst]

theorem columnLines_texts (f : TableField) :
    (columnDefinitions f).map (·.text flavor) =
      (columnLines flavor f).map (ColumnLine.text flavor) := by
  unfold columnDefinitions columnLines
  rw [List.map_map, List.map_map]
  exact List.map_congr_left fun _ _ => text_column

theorem exact_columnLines (hnodup : f.columns.Nodup) {l : ColumnLine}
    (hl : l ∈ columnLines flavor f) : l.Exact flavor ∧ l.field = f := by
  obtain ⟨⟨c, i⟩, hc, rfl⟩ := List.mem_map.1 hl
  exact ⟨exact_marksOf (List.mk_mem_zipIdx_iff_getElem?.1 hc) hnodup, rfl⟩

/-- Of the columns of a field one is marked as unique exactly if the field
is unique and has no other. -/
theorem unique_columnLines (hnodup : f.columns.Nodup) :
    ((columnLines flavor f).filter ColumnLine.isUnique).map ColumnLine.field =
      if f.unique && f.columnCount == 1 then [f] else [] := by
  have hunique : ∀ l ∈ columnLines flavor f,
      l.isUnique = (f.unique && f.columnCount == 1) := by
    intro l hl
    obtain ⟨hexact, rfl⟩ := exact_columnLines hnodup hl
    rw [Bool.eq_iff_iff, Bool.and_eq_true, beq_iff_eq, ← hexact.unique]
    exact List.contains_iff_mem
  rw [List.filter_congr hunique]
  cases h : f.unique && f.columnCount == 1 with
  | false => simp
  | true =>
      obtain ⟨c, hc⟩ := List.length_eq_one_iff.1 (eq_of_beq (Bool.and_eq_true_iff.1 h).2)
      rw [List.filter_true]
      unfold columnLines
      rw [hc]
      rfl

/-- The unique fields of one column and those of several columns are all
unique fields, if each field has a column. -/
theorem unique_perm {fields : List TableField} (hcolumns : ∀ f ∈ fields, f.columns ≠ [])
    (hnodup : ∀ f ∈ fields, f.columns.Nodup) :
    ((((fields.flatMap (columnLines flavor)).filter ColumnLine.isUnique).map ColumnLine.field) ++
      fields.filter SharesUnique).Perm (fields.filter (·.unique)) := by
  have hinline : ((fields.flatMap (columnLines flavor)).filter ColumnLine.isUnique).map
      ColumnLine.field = (fields.filter (·.unique)).filter (·.columnCount == 1) := by
    rw [List.filter_filter, List.filter_flatMap, List.map_flatMap]
    induction fields with
    | nil => rfl
    | cons f fields ih =>
        obtain ⟨hf, hfields⟩ := List.forall_mem_cons.1 hnodup
        rw [List.flatMap_cons, unique_columnLines hf,
          ih (List.forall_mem_cons.1 hcolumns).2 hfields, List.filter_cons, Bool.and_comm]
        split <;> rfl
  have hshared : fields.filter SharesUnique =
      (fields.filter (·.unique)).filter fun f => !(f.columnCount == 1) := by
    rw [List.filter_filter]
    refine List.filter_congr fun f hf => ?_
    have hpos := List.length_pos_iff.2 (hcolumns f hf)
    unfold SharesUnique TableField.columnCount
    rw [Bool.and_comm]
    congr 1
    rw [Bool.eq_iff_iff]
    simp
    omega
  rw [hinline, hshared]
  exact List.filter_append_perm _ _

/-- The constraints of fields that are unique over several columns. -/
theorem shared_texts (fields : List TableField) :
    (fields.filterMap uniqueDefinition?).map (·.text flavor) =
      (fields.filter SharesUnique).map uniqueText := by
  induction fields with
  | nil => rfl
  | cons f fields ih =>
      unfold uniqueDefinition? at ih ⊢
      rw [List.filterMap_cons, List.filter_cons]
      by_cases h : SharesUnique f = true
      · have h' : (f.unique && decide (f.columns.length > 1)) = true := h
        rw [if_pos h, if_pos h', List.map_cons, List.map_cons, ← ih]
        rfl
      · have h' : ¬(f.unique && decide (f.columns.length > 1)) = true := h
        rw [if_neg h, if_neg h', ← ih]

/-- The foreign keys of fields that are references. -/
theorem references_texts (h : s.WellFormed) {fields : List TableField}
    (hfields : ∀ f ∈ fields, ∀ r, f.reference? = some r → r.KeyedIn s.tables)
    {references : List (List Definition)}
    (hreferences : fields.mapM (referenceDefinitions s) = .ok references) :
    List.Forall₂ (DeclaresReference s) (fields.filter (·.isReference))
      (references.flatten.map (·.text flavor)) := by
  have hall := Attempt.mapM_eq_ok_iff.1 hreferences
  clear hreferences
  induction hall with
  | nil => exact .nil
  | @cons f own fields references hown _ ih =>
      obtain ⟨hf, hfields⟩ := List.forall_mem_cons.1 hfields
      rw [List.filter_cons, List.flatten_cons, List.map_append]
      rcases referenceDefinitions_eq_ok.1 hown with
        ⟨hr, rfl⟩ | ⟨r, source, target, column, hr, hsource, htarget, hkeyColumn, rfl⟩
      · have hnot : f.isReference = false := by
          unfold TableField.isReference
          rw [hr]
          rfl
        rw [hnot]
        exact ih hfields
      · have his : f.isReference = true := by
          unfold TableField.isReference
          rw [hr]
          rfl
        rw [his]
        refine .cons ?_ (ih hfields)
        obtain ⟨target', key, column', htarget', hkey, hcolumn', -, -, hkeyColumn'⟩ :=
          h.referenced (hf r hr)
        obtain rfl := Option.some.inj (htarget'.symm.trans (Schema.table_eq_ok.1 htarget))
        obtain rfl := Except.ok.inj (hkeyColumn'.symm.trans hkeyColumn)
        exact ⟨r, source, target', key, column', TableField.reference?_eq_some_iff.1 hr,
          TableField.column_eq_ok.1 hsource, htarget', hkey, hcolumn', rfl⟩

-- =============================================================== tables

/-- What the definitions of a table declare, if its fields keep to what is
demanded of an accepted table. -/
theorem declares_definitions (flavor : Flavor) (h : s.WellFormed) (ht : t ∈ s.tables)
    (hcolumns : ∀ f ∈ t.fields, f.columns ≠ []) (hdistinct : (t.columns.map (·.name)).Nodup)
    (hdefaults : ∀ f ∈ t.fields, f.defaults = [] ∨ f.defaults.length = f.columnCount)
    {defs : List Definition} (hdefs : definitions s t foreignKeys = .ok defs) :
    ∃ columns shared references, Declares s flavor t foreignKeys columns shared references ∧
      defs.map (·.text flavor) =
        columns.map (ColumnLine.text flavor) ++ shared.map uniqueText ++ references := by
  obtain ⟨references, hreferences, rfl⟩ := definitions_eq_ok.1 hdefs
  have hnodup : ∀ f ∈ t.fields, f.columns.Nodup := fun f hf =>
    (List.nodup_flatMap.1 (List.Nodup.of_map _ hdistinct)).1 f hf
  refine ⟨t.fields.flatMap (columnLines flavor), t.fields.filter SharesUnique,
    references.flatten.map (·.text flavor), ?_, ?_⟩
  · have howners : (t.fields.flatMap (columnLines flavor)).map ColumnLine.owner = t.owners := by
      unfold Table.owners
      rw [List.map_flatMap]
      exact List.flatMap_congr fun f _ => columnLines_owners f
    constructor
    case owners => exact howners
    case inOrder =>
      have hcolumn := congrArg (List.map Prod.snd) howners
      rw [List.map_map] at hcolumn
      refine hcolumn.trans ?_
      unfold Table.owners Table.columns
      rw [List.map_flatMap]
      refine List.flatMap_congr fun f _ => ?_
      rw [List.map_map]
      exact List.map_id _
    case exact =>
      intro l hl
      obtain ⟨f, hf, hl⟩ := List.mem_flatMap.1 hl
      exact (exact_columnLines (hnodup f hf) hl).1
    case defaults => exact hdefaults
    case several => rfl
    case once => exact unique_perm hcolumns hnodup
    case refers =>
      cases foreignKeys with
      | false =>
          obtain rfl := Except.ok.inj hreferences
          rfl
      | true => exact references_texts h (h.references t ht) hreferences
  · rw [List.map_append, List.map_append, shared_texts, List.map_flatMap, List.map_flatMap,
      List.flatMap_congr fun f _ => columnLines_texts f]

/-- A created table declares everything once. Let a table of a resolved
schema be created in any flavor, with or without foreign keys. If the
statement can be written, it is a line that opens it, the lines of the
definitions and a line that closes it. The definitions are those of the
columns of the table, in their order and each with the marks that its
field asks for, then the constraints of the fields that are unique over
several columns, and if asked for the foreign keys of the references. They
are separated by commas. -/
theorem createTable_declares {room : Nat}
    {answers : List TypeExpr → TypeExpr → Except Failure (List FieldDecl)} {locator : Locator}
    {request : Request} (hs : resolveWithin room answers locator request = .ok s)
    (ht : t ∈ s.tables) (flavor : Flavor) (ifNotExists foreignKeys : Bool) {b : Lines}
    (hb : render s flavor (.createTable t.id ifNotExists foreignKeys) = .ok b) :
    ∃ columns shared references lines,
      b.lines = ("CREATE TABLE " ++ (if ifNotExists then "IF NOT EXISTS " else "") ++ t.name ++
        " (") :: lines ++ [")"] ∧
      AllSingle b.lines ∧
      Separates (columns.map (ColumnLine.text flavor) ++ shared.map uniqueText ++ references)
        lines ∧
      Declares s flavor t foreignKeys columns shared references := by
  have h := wellFormed_of_resolveWithin hs
  obtain ⟨id, hid⟩ := List.mem_iff_getElem?.1 ht
  obtain ⟨r, -, haccepted⟩ := accepted_of_resolveWithin hs hid
  obtain ⟨defs, hdefs⟩ := definitions_succeed h ht foreignKeys
  have hclauses : clauses s flavor (.createTable t.id ifNotExists foreignKeys) = .ok _ :=
    createTable_clauses_eq (h.table ht) hdefs
  have hlines := Except.ok.inj ((render_lines hb).symm.trans hclauses)
  obtain ⟨columns, shared, references, hdeclares, htexts⟩ :=
    declares_definitions flavor h ht haccepted.columns haccepted.distinct haccepted.defaults hdefs
  refine ⟨columns, shared, references, definitionLines flavor defs, hlines, ?_, ?_, hdeclares⟩
  · rw [hlines]
    exact (render_fits hclauses).iff.1 ⟨b, hb⟩
  · rw [← htexts]
    exact definitionLines_separates flavor defs

/-- Singers, and their songs. A song is numbered by the database, although
a number is given, has a title of its own, and is at one place of a
record. -/
def songCatalog : Catalog where
  decls := [
    ⟨.named "Singer", [.plain "id" (.named "i32")], true, none, none, [], none⟩,
    ⟨.named "Place", [.plain "side" (.named "i32"), .plain "groove" (.named "i32")], false, none,
      none, [], none⟩,
    ⟨.named "Song", [{ FieldDecl.plain "id" (.named "i32") with defaults := ["7"] },
      { FieldDecl.plain "title" (.named "String") with unique := true, defaults := ["''"] },
      { FieldDecl.plain "place" (.named "Place") with unique := true, defaults := ["1", "2"] },
      .plain "singer" (.generic "ForeignInt" [.named "Singer"])], true, none, none, [], none⟩]
  unsupported := []

def songRequest : Request := ⟨songCatalog.models.map (·.toRequest), []⟩

/-- The lines that create the table of songs: the title is marked as unique
itself, the place by a constraint, and the number has no default. -/
def songLines : List String := [
  "CREATE TABLE IF NOT EXISTS song (",
  "    id INTEGER NOT NULL PRIMARY KEY AUTO_INCREMENT,",
  "    title VARCHAR(4096) NOT NULL DEFAULT ('') UNIQUE,",
  "    place_side INTEGER NOT NULL DEFAULT (1),",
  "    place_groove INTEGER NOT NULL DEFAULT (2),",
  "    singer_id INTEGER NOT NULL,",
  "    UNIQUE (place_side, place_groove),",
  "    FOREIGN KEY(singer_id) REFERENCES singer(id)",
  ")"]

theorem createTable_declares_songs :
    ∃ s t b, resolve songCatalog.describer Registry.empty.locator songRequest = .ok s ∧
      t ∈ s.tables ∧ render s .mysql (.createTable t.id true true) = .ok b ∧
      b.lines = songLines ∧
      ∃ columns shared references lines,
        b.lines = "CREATE TABLE IF NOT EXISTS song (" :: lines ++ [")"] ∧
        Separates (columns.map (ColumnLine.text .mysql) ++ shared.map uniqueText ++ references)
          lines ∧
        Declares s .mysql t true columns shared references := by
  have hfound : ((resolve songCatalog.describer Registry.empty.locator
      songRequest).toOption.bind fun s => s.tables.find? fun t => t.name == "song" &&
        ((render s .mysql (.createTable t.id true true)).toOption.map (·.lines)) ==
          some songLines).isSome = true := by
    decide +kernel
  obtain ⟨t, hfound⟩ := Option.isSome_iff_exists.1 hfound
  obtain ⟨s, hs, hfind⟩ := Option.bind_eq_some_iff.1 hfound
  have ht := List.mem_of_find?_eq_some hfind
  have hsong := List.find?_some hfind
  obtain ⟨hname, hlines⟩ := Bool.and_eq_true_iff.1 hsong
  obtain ⟨b, hb, hlines⟩ := Option.map_eq_some_iff.1 (eq_of_beq hlines)
  obtain ⟨columns, shared, references, lines, hwhole, -, hseparates, hdeclares⟩ :=
    createTable_declares (Attempt.toOption_eq_some.1 hs) ht .mysql true true
      (Attempt.toOption_eq_some.1 hb)
  rw [eq_of_beq hname] at hwhole
  exact ⟨s, t, b, Attempt.toOption_eq_some.1 hs, ht, Attempt.toOption_eq_some.1 hb, hlines,
    columns, shared, references, lines, hwhole, hseparates, hdeclares⟩

end Rowsmith.Sql

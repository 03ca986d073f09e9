/-
Columns that are not null, and columns that may be read and written as
null.

Whether a column is declared not to be null is a matter of the field it
belongs to: the columns of a field are declared so, all of them, unless
the field is nullable. Whether a column is read and written as one that
may be null is decided column by column. For most fields this comes to
the same. For a nested structure it does not: the structure may always be
there, and still have members that are optional, at any depth. Their
columns are declared not to be null like the others.

So whatever may be null can be stored exactly if every structure that has
optional members is itself optional (`TableField.TakesNulls`).

Main result: `nullable_columns_iff`.
-/
import Rowsmith.Proofs.Reading.Plans
import Rowsmith.Proofs.Writing.Slots

namespace Rowsmith

open Text

namespace Sql

-- ================================================================= text

/-- A text that does not begin by saying that a column is not null. -/
def Silent (text : String) : Prop := ∀ rest, text ≠ " NOT NULL" ++ rest

/-- A clause of another beginning may come before, or be left out. -/
theorem Silent.clauseIf {clause text : String} (h : Silent text)
    (hclause : ∀ rest, Silent (clause ++ rest)) (condition : Bool) :
    Silent (Sql.clauseIf condition clause ++ text) := by
  cases condition with
  | true => exact hclause text
  | false => rwa [Sql.clauseIf, if_neg Bool.false_ne_true, String.empty_append]

theorem silent_append {opening : String} {c : Char} {cs : List Char}
    (hopening : opening.toList = ' ' :: c :: cs) (hc : c ≠ 'N') (rest : String) :
    Silent (opening ++ rest) := by
  intro rest' htext
  have hchars := congrArg String.toList htext
  rw [String.toList_append, String.toList_append, hopening] at hchars
  exact hc (List.cons.inj (List.cons.inj hchars).2).1

/-- What follows on the name and the type of a column: that it is not null,
unless its field is nullable, and then clauses that begin otherwise. -/
theorem exists_silent (flavor : Flavor) (f : TableField) (c : Column) (initial : Option String)
    {after : String} (hafter : after ∈ ["", ","]) :
    ∃ more, (Definition.column f c initial).text flavor ++ after =
      c.name ++ " " ++ flavor.declaredType f c ++ (clauseIf (!f.nullable) " NOT NULL" ++ more) ∧
      Silent more := by
  unfold Definition.text Flavor.declaredType
  dsimp only
  simp only [String.append_assoc]
  refine ⟨_, rfl, ?_⟩
  have hlast : Silent (clauseIf (f.unique && f.columns.length == 1) " UNIQUE" ++ after) := by
    refine .clauseIf (fun rest htext => ?_) (silent_append (by rfl) (by decide)) _
    have hchars := congrArg String.toList htext
    rw [String.toList_append] at hchars
    rcases List.mem_pair.1 hafter with rfl | rfl
    · cases hchars
    · cases (List.cons.inj hchars).1
  refine .clauseIf (.clauseIf ?_ (silent_append (by rfl) (by decide)) _)
    (silent_append (by rfl) (by decide)) _
  cases initial with
  | none => exact hlast
  | some expr =>
      refine hlast.clauseIf (fun rest => ?_) _
      rw [String.append_assoc]
      exact silent_append (by rfl) (by decide) _

/-- The line that defines a column says after its name and its type that
it is not null exactly if its field is not nullable. -/
theorem column_notNull_iff (flavor : Flavor) (f : TableField) (c : Column)
    (initial : Option String) {after : String} (hafter : after ∈ ["", ","]) :
    (∃ rest, "    " ++ (Definition.column f c initial).text flavor ++ after =
      "    " ++ c.name ++ " " ++ flavor.declaredType f c ++ " NOT NULL" ++ rest) ↔
        f.nullable = false := by
  obtain ⟨more, hmore, hsilent⟩ := exists_silent flavor f c initial hafter
  have hline : ∀ rest, "    " ++ (Definition.column f c initial).text flavor ++ after =
      "    " ++ c.name ++ " " ++ flavor.declaredType f c ++ " NOT NULL" ++ rest ↔
        clauseIf (!f.nullable) " NOT NULL" ++ more = " NOT NULL" ++ rest := by
    intro rest
    rw [String.append_assoc, hmore]
    simp only [String.append_assoc, String.append_right_inj]
  simp only [hline]
  cases f.nullable with
  | true =>
      refine iff_of_false ?_ (by decide)
      rintro ⟨rest, htext⟩
      exact hsilent rest (by simpa [clauseIf] using htext)
  | false => exact iff_of_true ⟨more, rfl⟩ rfl

end Sql

-- =============================================================== places

section

variable {fields before after : List TableField} {f : TableField} {k : Nat}

/-- Every column belongs to a field, whose first column comes after those
of the fields before it. -/
theorem exists_place (h : k < Emit.width fields) : ∃ before f after i,
    fields = before ++ f :: after ∧ i < f.columnCount ∧ k = Emit.width before + i := by
  induction fields generalizing k with
  | nil => cases h
  | cons f fields ih =>
      rcases Nat.lt_or_ge k f.columnCount with hk | hk
      · exact ⟨[], f, fields, k, rfl, hk, (Nat.zero_add k).symm⟩
      · have hrest : k - f.columnCount < Emit.width fields := by
          have hwidth : Emit.width (f :: fields) = f.columnCount + Emit.width fields := rfl
          omega
        obtain ⟨before, f', after, i, rfl, hi, hplace⟩ := ih hrest
        refine ⟨f :: before, f', after, i, rfl, hi, ?_⟩
        have hwidth : Emit.width (f :: before) = f.columnCount + Emit.width before := rfl
        omega

/-- What fields give for each of their columns stands in the place of the
column. -/
theorem getElem?_place {α : Type} {given : TableField → List α}
    (hgiven : ∀ f' ∈ before ++ f :: after, (given f').length = f'.columnCount) {i : Nat}
    (hi : i < f.columnCount) :
    ((before ++ f :: after).flatMap given)[Emit.width before + i]? = (given f)[i]? := by
  have hbefore : (before.flatMap given).length = Emit.width before := by
    rw [length_flatMap_eq_total]
    refine congrArg total (List.map_congr_left fun f' hf' => ?_)
    exact hgiven f' (List.mem_append_left _ hf')
  have hf := hgiven f (List.mem_append_right _ List.mem_cons_self)
  rw [List.flatMap_append, List.flatMap_cons, ← hbefore,
    List.getElem?_append_right (Nat.le_add_right ..), Nat.add_sub_cancel_left,
    List.getElem?_append_left (by omega)]

end

-- ========================================================= declarations

/-- The columns of a table, each with the field it belongs to. -/
def Table.owners (t : Table) : List (TableField × Column) :=
  t.fields.flatMap fun f => f.columns.map fun c => (f, c)

namespace Sql

variable {s : Schema} {t : Table} {lines : List String} {flavor : Flavor} {k : Nat}

/-- Of the lines that create a table, the one for a column says that it is
not null. The first line begins the statement. -/
def DeclaresNotNull (flavor : Flavor) (t : Table) (lines : List String) (k : Nat) : Prop :=
  ∃ f c line rest, t.owners[k]? = some (f, c) ∧ lines[k + 1]? = some line ∧
    line = "    " ++ c.name ++ " " ++ flavor.declaredType f c ++ " NOT NULL" ++ rest

/-- The field and the column that a definition is about, if it is that of
a column. -/
def Definition.owner? : Definition → Option (TableField × Column)
  | .column f c _ => some (f, c)
  | .unique _ => none
  | .reference _ _ _ => none

theorem columnDefinitions_owners (f : TableField) :
    (columnDefinitions f).map Definition.owner? = f.columns.map fun c => some (f, c) := by
  unfold columnDefinitions
  rw [List.map_map]
  calc f.columns.zipIdx.map (Definition.owner? ∘ fun x => .column f x.1 f.defaults[x.2]?)
      = (f.columns.zipIdx.map Prod.fst).map fun c => some (f, c) := by rw [List.map_map]; rfl
    _ = f.columns.map fun c => some (f, c) := by rw [List.zipIdx_map_fst]

/-- The definitions of a table begin with those of its columns. -/
theorem definition_of_owner {foreignKeys : Bool} {defs : List Definition}
    (h : definitions s t foreignKeys = .ok defs) {f : TableField} {c : Column}
    (hk : t.owners[k]? = some (f, c)) : ∃ initial, defs[k]? = some (.column f c initial) := by
  obtain ⟨references, -, rfl⟩ := definitions_eq_ok.1 h
  have howners : (t.fields.flatMap columnDefinitions).map Definition.owner? =
      t.owners.map some := by
    unfold Table.owners
    rw [List.map_flatMap, List.map_flatMap]
    refine List.flatMap_congr fun f _ => ?_
    rw [columnDefinitions_owners, List.map_map]
    rfl
  have howner := congrArg (·[k]?) howners
  rw [List.getElem?_map, List.getElem?_map, hk] at howner
  obtain ⟨d, hd, howner⟩ := Option.map_eq_some_iff.1 howner
  cases d with
  | column f' c' initial =>
      obtain ⟨rfl, rfl⟩ := Prod.mk.inj (Option.some.inj howner)
      refine ⟨initial, ?_⟩
      rw [List.append_assoc, List.getElem?_append_left (List.getElem?_eq_some_iff.1 hd).1]
      exact hd
  | unique columns => cases howner
  | reference source target column => cases howner

/-- A column is declared not to be null exactly if its field is not
nullable. -/
theorem declaresNotNull_iff (ht : s.table t.id = .ok t) {ifNotExists foreignKeys : Bool}
    (h : clauses s flavor (.createTable t.id ifNotExists foreignKeys) = .ok lines) :
    DeclaresNotNull flavor t lines k ↔
      ∃ f c, t.owners[k]? = some (f, c) ∧ f.nullable = false := by
  obtain ⟨t', ht', h⟩ := Attempt.bind_eq_ok.1 h
  obtain rfl := Except.ok.inj (ht.symm.trans ht')
  obtain ⟨defs, hdefs, h⟩ := Attempt.bind_eq_ok.1 h
  obtain rfl := Attempt.pure_eq_ok.1 h
  have hline : ∀ f c, t.owners[k]? = some (f, c) → ∃ initial, ∃ after ∈ ["", ","],
      (["CREATE TABLE " ++ clauseIf ifNotExists "IF NOT EXISTS " ++ t.name ++ " ("] ++
        definitionLines flavor defs ++ [")"])[k + 1]? =
          some ("    " ++ (Definition.column f c initial).text flavor ++ after) := by
    intro f c howner
    obtain ⟨initial, hd⟩ := definition_of_owner hdefs howner
    have hline := getElem?_definitionLines flavor hd
    refine ⟨initial, _, separator_mem (k + 1 < defs.length), ?_⟩
    rw [List.append_assoc, List.singleton_append, List.getElem?_cons_succ,
      List.getElem?_append_left (List.getElem?_eq_some_iff.1 hline).1]
    exact hline
  constructor
  · rintro ⟨f, c, line, rest, howner, hk, htext⟩
    obtain ⟨initial, after, hafter, hline⟩ := hline f c howner
    obtain rfl := Option.some.inj (hline.symm.trans hk)
    exact ⟨f, c, howner, (column_notNull_iff flavor f c initial hafter).1 ⟨rest, htext⟩⟩
  · rintro ⟨f, c, howner, hnull⟩
    obtain ⟨initial, after, hafter, hline⟩ := hline f c howner
    obtain ⟨rest, htext⟩ := (column_notNull_iff flavor f c initial hafter).2 hnull
    exact ⟨f, c, _, rest, howner, hline, htext⟩

end Sql

namespace Emit

variable {s : Schema} {t : Table} {f : TableField} {before after : List TableField}
  {plan : List FieldRead} {existing : ExistingAdapters} {k : Nat}

-- ============================================================== reading

/-- The function that reads a row reads a column of its own table as one
that may be null. -/
def ReadsOptionally (plan : List FieldRead) (k : Nat) : Prop :=
  ∃ getter, (plan.flatMap FieldRead.getters)[k]? = some getter ∧ getter.optional = true

/-- The getters by which the columns of a field are read. -/
def fieldGetters (f : TableField) : List Getter :=
  match adapter? f with
  | some (_, params) => params.map Param.getter
  | none => f.columns.map fun c => ⟨c.storage, f.nullable⟩

theorem length_fieldGetters (hf : f.Laid) : (fieldGetters f).length = f.columnCount := by
  unfold fieldGetters
  cases h : adapter? f with
  | some adapter =>
      obtain ⟨name, params⟩ := adapter
      exact (List.length_map _).trans (length_params hf h)
  | none => exact List.length_map _

theorem getters_of_fieldRead {id : TableId} {read : FieldRead} (hf : f.Laid)
    (h : fieldRead s id f = .ok read) : read.getters = fieldGetters f := by
  unfold fieldRead at h
  unfold fieldGetters adapter?
  unfold TableField.Laid at hf
  cases hkind : f.kind with
  | native =>
      rw [hkind] at h hf
      obtain ⟨c, hc, h⟩ := Attempt.bind_eq_ok.1 h
      obtain rfl := Attempt.pure_eq_ok.1 h
      rw [TableField.column_eq_ok.1 hc]
      rfl
  | mapped conversion =>
      rw [hkind] at h hf
      obtain ⟨c, hc, h⟩ := Attempt.bind_eq_ok.1 h
      obtain rfl := Attempt.pure_eq_ok.1 h
      rw [TableField.column_eq_ok.1 hc]
      rfl
  | adapted adapter =>
      rw [hkind] at h
      obtain rfl := Except.ok.inj h
      rfl
  | nested structured =>
      rw [hkind] at h
      obtain rfl := Except.ok.inj h
      rfl
  | reference r =>
      rw [hkind] at h hf
      obtain rfl := Except.ok.inj h
      obtain ⟨name, hcolumns⟩ := hf
      rw [hcolumns]
      rfl

theorem getters_of_planOf (h : s.WellFormed) (ht : t ∈ s.tables) {fields : List TableField}
    (hplan : PlanOf s t fields plan) :
    plan.flatMap FieldRead.getters = fields.flatMap fieldGetters := by
  obtain ⟨hmem, hall⟩ := hplan
  induction hall with
  | nil => rfl
  | @cons f read fields plan hread _ ih =>
      obtain ⟨hf, hfields⟩ := List.forall_mem_cons.1 hmem
      rw [List.flatMap_cons, List.flatMap_cons, getters_of_fieldRead (h.laid t ht f hf) hread,
        ih hfields]

-- ============================================================== writing

/-- The functions that write a model may put the value of an optional
field, or of an optional member at any depth, into the slot of a column.
Where a field is optional and stored through an adapter, all its slots
stay null if it is absent. -/
def WritesOptionally (s : Schema) (existing : ExistingAdapters) (t : Table) (k : Nat) : Prop :=
  ∃ before f after, t.fields = before ++ f :: after ∧ width before ≤ k ∧
    k < width before + f.columnCount ∧
    (f.isOptional = true ∨ ∃ name params puts, adapter? f = some (name, params) ∧
      Fills s existing (width before) puts name ∧ (true, k) ∈ puts)

-- ============================================================== columns

/-- Whatever a field may hold can be stored: it is nullable, or if it is a
nested structure then no member of it is optional, at any depth. -/
def TakesNulls (f : TableField) : Prop :=
  f.nullable = true ∨ ∀ structured, f.kind = .nested structured →
    ∀ param ∈ structureParams structured, param.optional = false

/-- A field takes nulls exactly if it is nullable or its adapter has no
parameter that may be null. -/
theorem takesNulls_iff : TakesNulls f ↔ f.nullable = true ∨
    ∀ name params, adapter? f = some (name, params) → ∀ param ∈ params,
      param.optional = false := by
  unfold TakesNulls adapter?
  refine or_congr_right ?_
  cases f.kind with
  | adapted adapter =>
      refine iff_of_true (fun structured h => nomatch h) ?_
      intro name params h param hparam
      cases h
      obtain ⟨c, -, rfl⟩ := List.mem_map.1 hparam
      rfl
  | nested structured =>
      constructor
      · intro h name params hadapter
        cases hadapter
        exact h structured rfl
      · intro h structured' hkind
        cases hkind
        exact h _ _ rfl
  | _ => exact iff_of_true (fun structured h => nomatch h) (fun name params h => nomatch h)

/-- A column of a field is read and written by the adapter of the field as
one that may be null. -/
def OptionalAt (f : TableField) (i : Nat) : Prop :=
  ∃ name params param, adapter? f = some (name, params) ∧ params[i]? = some param ∧
    param.optional = true

theorem OptionalAt.lt {i : Nat} (hf : f.Laid) (h : OptionalAt f i) : i < f.columnCount := by
  obtain ⟨name, params, param, hadapter, hparam, -⟩ := h
  rw [← length_params hf hadapter]
  exact (List.getElem?_eq_some_iff.1 hparam).1

/-- A field that takes nulls and has a column that may be null is
nullable. -/
theorem TakesNulls.nullable (h : TakesNulls f) {i : Nat} (hi : OptionalAt f i) :
    f.nullable = true := by
  obtain ⟨name, params, param, hadapter, hparam, hoptional⟩ := hi
  rcases takesNulls_iff.1 h with hnullable | hnone
  · exact hnullable
  · have hrequired := hnone name params hadapter param (List.mem_of_getElem? hparam)
    exact Bool.noConfusion (hrequired.symm.trans hoptional)

/-- A field that does not take nulls has a column that may be null, and is
not nullable. -/
theorem exists_optionalAt (h : ¬ TakesNulls f) :
    f.nullable = false ∧ ∃ i, OptionalAt f i := by
  rw [takesNulls_iff, not_or, Bool.not_eq_true] at h
  refine ⟨h.1, ?_⟩
  by_contra hnone
  refine h.2 fun name params hadapter param hparam => ?_
  obtain ⟨i, hi⟩ := List.mem_iff_getElem?.1 hparam
  exact Bool.eq_false_iff.2 fun hoptional => hnone ⟨i, name, params, param, hadapter, hi, hoptional⟩

section

variable {flavor : Sql.Flavor} {lines : List String} {ifNotExists foreignKeys : Bool}

/-- The columns of a field are declared not to be null unless it is
nullable. -/
theorem declaresNotNull_place (ht : s.table t.id = .ok t)
    (hlines : Sql.clauses s flavor (.createTable t.id ifNotExists foreignKeys) = .ok lines)
    (hfields : t.fields = before ++ f :: after) {i : Nat} (hi : i < f.columnCount) :
    Sql.DeclaresNotNull flavor t lines (width before + i) ↔ f.nullable = false := by
  have howner : t.owners[width before + i]? = some (f, f.columns.get ⟨i, hi⟩) := by
    unfold Table.owners
    rw [hfields, getElem?_place (fun f _ => List.length_map _) hi, List.getElem?_map,
      List.getElem?_eq_getElem hi]
    rfl
  rw [Sql.declaresNotNull_iff ht hlines, howner]
  constructor
  · rintro ⟨f', c, hsame, hnull⟩
    cases hsame
    exact hnull
  · intro hnull
    exact ⟨f, _, rfl, hnull⟩

/-- Suppose that columns may hold a null only if they are those of optional
members or of a nullable field, and that those of optional members do. Then
none of them is declared not to be null, exactly if all fields take
nulls. -/
theorem nulls_iff (h : s.WellFormed) (ht : t ∈ s.tables)
    (hlines : Sql.clauses s flavor (.createTable t.id ifNotExists foreignKeys) = .ok lines)
    {MayHold : Nat → Prop}
    (hmember : ∀ before f after i, t.fields = before ++ f :: after → OptionalAt f i →
      MayHold (width before + i))
    (honly : ∀ k, MayHold k → ∃ before f after i, t.fields = before ++ f :: after ∧
      i < f.columnCount ∧ k = width before + i ∧ (f.nullable = true ∨ OptionalAt f i)) :
    (∀ k, MayHold k → ¬ Sql.DeclaresNotNull flavor t lines k) ↔
      ∀ f ∈ t.fields, TakesNulls f := by
  constructor
  · intro hall f hf
    by_contra hleaks
    obtain ⟨before, after, hfields⟩ := List.append_of_mem hf
    obtain ⟨hnull, i, hoptional⟩ := exists_optionalAt hleaks
    refine hall _ (hmember before f after i hfields hoptional) ?_
    exact (declaresNotNull_place (h.table ht) hlines hfields
      (hoptional.lt (h.laid t ht f hf))).2 hnull
  · intro hall k hmay hdeclared
    obtain ⟨before, f, after, i, hfields, hi, rfl, hcolumn⟩ := honly k hmay
    have hnull := (declaresNotNull_place (h.table ht) hlines hfields hi).1 hdeclared
    have hf : f ∈ t.fields := hfields ▸ List.mem_append_right _ List.mem_cons_self
    have hnullable : f.nullable = true := hcolumn.elim id (hall f hf).nullable
    exact Bool.noConfusion (hnull.symm.trans hnullable)

/-- A column is read as one that may be null if its field is nullable and
stored without an adapter, or if the adapter takes it so. -/
theorem readsOptionally_place (h : s.WellFormed) (ht : t ∈ s.tables)
    (hplan : readPlan s t = .ok plan) (hfields : t.fields = before ++ f :: after) {i : Nat}
    (hi : i < f.columnCount) :
    ReadsOptionally plan (width before + i) ↔
      (adapter? f = none ∧ f.nullable = true) ∨ OptionalAt f i := by
  have hgetters : ReadsOptionally plan (width before + i) ↔
      ∃ getter, (fieldGetters f)[i]? = some getter ∧ getter.optional = true := by
    unfold ReadsOptionally
    rw [getters_of_planOf h ht (planOf_of_readPlan hplan), hfields,
      getElem?_place (fun f' hf' => length_fieldGetters (h.laid t ht f' (hfields ▸ hf'))) hi]
  rw [hgetters]
  unfold fieldGetters OptionalAt
  cases adapter? f with
  | none => simp [List.getElem?_map, List.getElem?_eq_getElem hi]
  | some adapter =>
      obtain ⟨name, params⟩ := adapter
      dsimp only
      constructor
      · rintro ⟨getter, hgetter, hoptional⟩
        rw [List.getElem?_map, Option.map_eq_some_iff] at hgetter
        obtain ⟨param, hparam, rfl⟩ := hgetter
        exact Or.inr ⟨name, params, param, rfl, hparam, hoptional⟩
      · rintro (⟨hnone, -⟩ | ⟨_, _, param, hsame, hparam, hoptional⟩)
        · cases hnone
        · cases hsame
          refine ⟨param.getter, ?_, hoptional⟩
          rw [List.getElem?_map, hparam]
          rfl

/-- No column that is read as one that may be null is declared not to be,
exactly if all fields take nulls. -/
theorem reads_nulls_iff (h : s.WellFormed) (ht : t ∈ s.tables) (hplan : readPlan s t = .ok plan)
    (hlines : Sql.clauses s flavor (.createTable t.id ifNotExists foreignKeys) = .ok lines) :
    (∀ k, ReadsOptionally plan k → ¬ Sql.DeclaresNotNull flavor t lines k) ↔
      ∀ f ∈ t.fields, TakesNulls f := by
  refine nulls_iff h ht hlines (fun before f after i hfields hoptional => ?_) fun k hreads => ?_
  · have hf : f ∈ t.fields := hfields ▸ List.mem_append_right _ List.mem_cons_self
    have hi := hoptional.lt (h.laid t ht f hf)
    exact (readsOptionally_place h ht hplan hfields hi).2 (Or.inr hoptional)
  · have hk : k < width t.fields := by
      obtain ⟨getter, hgetter, -⟩ := hreads
      have hlength := (List.getElem?_eq_some_iff.1 hgetter).1
      rwa [getters_of_planOf h ht (planOf_of_readPlan hplan), length_flatMap_eq_total,
        List.map_congr_left fun f hf => length_fieldGetters (h.laid t ht f hf)] at hlength
    obtain ⟨before, f, after, i, hfields, hi, rfl⟩ := exists_place hk
    refine ⟨before, f, after, i, hfields, hi, rfl, ?_⟩
    exact ((readsOptionally_place h ht hplan hfields hi).1 hreads).imp_left And.right

/-- No column that may be written as null is declared not to be, exactly
if all fields take nulls. -/
theorem writes_nulls_iff (h : s.WellFormed) (hwired : Wired s existing) (ht : t ∈ s.tables)
    (hnullable : ∀ f ∈ t.fields, f.isOptional = true → f.nullable = true)
    (hlines : Sql.clauses s flavor (.createTable t.id ifNotExists foreignKeys) = .ok lines) :
    (∀ k, WritesOptionally s existing t k → ¬ Sql.DeclaresNotNull flavor t lines k) ↔
      ∀ f ∈ t.fields, TakesNulls f := by
  refine nulls_iff h ht hlines ?_ ?_
  · rintro before f after i hfields ⟨name, params, param, hadapter, hparam, hoptional⟩
    have hf : f ∈ t.fields := hfields ▸ List.mem_append_right _ List.mem_cons_self
    have hi : i < f.columnCount :=
      OptionalAt.lt (h.laid t ht f hf) ⟨name, params, param, hadapter, hparam, hoptional⟩
    obtain ⟨⟨puts, hfills⟩, hputs⟩ := fills_ok hwired ht hf hadapter (width before)
    refine ⟨before, f, after, hfields, Nat.le_add_right .., Nat.add_lt_add_left hi _,
      Or.inr ⟨name, params, puts, hadapter, hfills, ?_⟩⟩
    rw [hputs puts hfills, List.mk_add_mem_zipIdx_iff_getElem?, optionals, List.getElem?_map,
      hparam]
    exact congrArg some hoptional
  · rintro k ⟨before, f, after, hfields, hfirst, hlast, hwrites⟩
    have hf : f ∈ t.fields := hfields ▸ List.mem_append_right _ List.mem_cons_self
    obtain ⟨i, rfl⟩ := Nat.exists_eq_add_of_le hfirst
    refine ⟨before, f, after, i, hfields, by omega, rfl, ?_⟩
    rcases hwrites with hoptional | ⟨name, params, puts, hadapter, hfills, hput⟩
    · exact Or.inl (hnullable f hf hoptional)
    · obtain ⟨-, hputs⟩ := fills_ok hwired ht hf hadapter (width before)
      rw [hputs puts hfills, List.mk_add_mem_zipIdx_iff_getElem?, optionals, List.getElem?_map,
        Option.map_eq_some_iff] at hput
      obtain ⟨param, hparam, hoptional⟩ := hput
      exact Or.inr ⟨name, params, param, hadapter, hparam, hoptional⟩

end

-- ================================================================= main

/-- A field that is declared optional is nullable. -/
theorem nullable_of_isOptional {room : Nat}
    {answers : List TypeExpr → TypeExpr → Except Failure (List FieldDecl)} {locator : Locator}
    {request : Request} (hs : resolveWithin room answers locator request = .ok s)
    (ht : t ∈ s.tables) (hf : f ∈ t.fields) (h : f.isOptional = true) : f.nullable = true := by
  obtain ⟨id, hid⟩ := List.mem_iff_getElem?.1 ht
  obtain ⟨request, -, hresolved⟩ := (resolveWithin_ok hs).tables id t hid
  obtain ⟨decl, v, x, -, -, hfield⟩ := hresolved.field hf
  rw [hfield.eq] at h ⊢
  exact Bool.or_eq_true_iff.2 (Or.inr h)

/-- A column that may hold a null is not declared not to be null, except
where a nested structure has optional members and is not optional itself.
For every table of a resolved schema and every flavor there are the plan
by which its rows are read and the lines that create it. No column that
is read as one that may be null is declared not to be, if and only if
every field of the table takes nulls; and the same is true of the columns
that may be written as null. -/
theorem nullable_columns_iff {room : Nat}
    {answers : List TypeExpr → TypeExpr → Except Failure (List FieldDecl)} {locator : Locator}
    {request : Request} (hs : resolveWithin room answers locator request = .ok s)
    (hexact : ∀ a, s.Uses a → existing.Exact a) (ht : t ∈ s.tables) (flavor : Sql.Flavor)
    (ifNotExists foreignKeys : Bool) :
    ∃ plan lines, readPlan s t = .ok plan ∧
      Sql.clauses s flavor (.createTable t.id ifNotExists foreignKeys) = .ok lines ∧
      ((∀ k, ReadsOptionally plan k → ¬ Sql.DeclaresNotNull flavor t lines k) ↔
        ∀ f ∈ t.fields, TakesNulls f) ∧
      ((∀ k, WritesOptionally s existing t k → ¬ Sql.DeclaresNotNull flavor t lines k) ↔
        ∀ f ∈ t.fields, TakesNulls f) := by
  have h := wellFormed_of_resolveWithin hs
  obtain ⟨plan, hplan⟩ := readPlan_succeeds h ht
  obtain ⟨defs, hdefs⟩ := Sql.definitions_succeed h ht foreignKeys
  have hlines : ∃ lines,
      Sql.clauses s flavor (.createTable t.id ifNotExists foreignKeys) = .ok lines ∧ _ :=
    Sql.createTable_clauses (h.table ht) hdefs
  obtain ⟨lines, hlines, -⟩ := hlines
  exact ⟨plan, lines, hplan, hlines, reads_nulls_iff h ht hplan hlines,
    writes_nulls_iff h (wired_of_resolveWithin hs hexact) ht
      (fun f hf => nullable_of_isOptional hs ht hf) hlines⟩

/-- A letter, and the place it was written at, given as a type: a place has
a number and may have a note. -/
def letterCatalog (place : TypeExpr) : Catalog where
  decls := [
    ⟨.named "Place", [.plain "note" (.generic "Option" [.named "String"]),
      .plain "zip" (.named "i32")], false, none, none, [], none⟩,
    ⟨.named "Letter", [.plain "id" (.named "i32"), .plain "place" place], true, none, none, [],
      none⟩]
  unsupported := []

def letterRequest : Request := ⟨[.ofModel (.named "Letter")], []⟩

/-- Of a letter that may have a place, the note is read as one that may be
null, and no such column is declared not to be. -/
theorem nullable_columns_letter :
    ∃ s t plan lines, resolve (letterCatalog (.generic "Option" [.named "Place"])).describer
        Registry.empty.locator letterRequest = .ok s ∧ t ∈ s.tables ∧
      (∀ a, s.Uses a → pairAdapters.Exact a) ∧ readPlan s t = .ok plan ∧
      Sql.clauses s .sqlite (.createTable t.id true true) = .ok lines ∧ ReadsOptionally plan 1 ∧
      (∀ k, ReadsOptionally plan k → ¬ Sql.DeclaresNotNull .sqlite t lines k) ∧
      ∀ k, WritesOptionally s pairAdapters t k → ¬ Sql.DeclaresNotNull .sqlite t lines k := by
  have hfound : ((resolve (letterCatalog (.generic "Option" [.named "Place"])).describer
      Registry.empty.locator letterRequest).toOption.bind fun s => s.tables.find? fun t =>
        usesPairs s && ((readPlan s t).toOption.map fun plan =>
          (plan.flatMap FieldRead.getters)[1]?) == some (some ⟨.string, true⟩) &&
        t.fields.all fun f => f.nullable || (adapter? f).isNone).isSome = true := by
    decide +kernel
  obtain ⟨t, hfound⟩ := Option.isSome_iff_exists.1 hfound
  obtain ⟨s, hs, hfind⟩ := Option.bind_eq_some_iff.1 hfound
  have ht := List.mem_of_find?_eq_some hfind
  have hletter := List.find?_some hfind
  obtain ⟨hread, hfields⟩ := Bool.and_eq_true_iff.1 hletter
  obtain ⟨hpairs, hread⟩ := Bool.and_eq_true_iff.1 hread
  have htakes : ∀ f ∈ t.fields, TakesNulls f := by
    intro f hf
    rcases Bool.or_eq_true_iff.1 (List.all_eq_true.1 hfields f hf) with hnullable | hplain
    · exact Or.inl hnullable
    · refine takesNulls_iff.2 (Or.inr fun name params hadapter => ?_)
      rw [hadapter] at hplain
      cases hplain
  have hexact : ∀ a, s.Uses a → pairAdapters.Exact a := fun a => pairAdapters_exact hpairs
  obtain ⟨plan, lines, hplan, hlines, hreads, hwrites⟩ :=
    nullable_columns_iff (Attempt.toOption_eq_some.1 hs) hexact ht .sqlite true true
  have hnote : ReadsOptionally plan 1 := by
    rw [hplan] at hread
    exact ⟨_, Option.some.inj (eq_of_beq hread), rfl⟩
  exact ⟨s, t, plan, lines, Attempt.toOption_eq_some.1 hs, ht, hexact, hplan, hlines, hnote,
    hreads.2 htakes, hwrites.2 htakes⟩

/-- Of a letter that has a place, the note is read as one that may be null,
and its column is declared not to be. -/
theorem notNull_note :
    ∃ s t plan lines, resolve (letterCatalog (.named "Place")).describer Registry.empty.locator
        letterRequest = .ok s ∧ t ∈ s.tables ∧ readPlan s t = .ok plan ∧
      Sql.clauses s .sqlite (.createTable t.id true true) = .ok lines ∧
      lines[2]? = some "    place_note VARCHAR NOT NULL," ∧ ReadsOptionally plan 1 ∧
      Sql.DeclaresNotNull .sqlite t lines 1 := by
  have hfound : ((resolve (letterCatalog (.named "Place")).describer Registry.empty.locator
      letterRequest).toOption.bind fun s => s.tables.find? fun t =>
        ((readPlan s t).toOption.map fun plan => (plan.flatMap FieldRead.getters)[1]?) ==
          some (some ⟨.string, true⟩) &&
        ((Sql.clauses s .sqlite (.createTable t.id true true)).toOption.map fun lines =>
          lines[2]?) == some (some "    place_note VARCHAR NOT NULL,") &&
        t.owners[1]?.any fun o => !o.1.nullable).isSome = true := by
    decide +kernel
  obtain ⟨t, hfound⟩ := Option.isSome_iff_exists.1 hfound
  obtain ⟨s, hs, hfind⟩ := Option.bind_eq_some_iff.1 hfound
  have ht := List.mem_of_find?_eq_some hfind
  have hletter := List.find?_some hfind
  obtain ⟨hread, howner⟩ := Bool.and_eq_true_iff.1 hletter
  obtain ⟨hread, hline⟩ := Bool.and_eq_true_iff.1 hread
  obtain ⟨plan, hplan, hgetter⟩ := Option.map_eq_some_iff.1 (eq_of_beq hread)
  obtain ⟨lines, hlines, hline⟩ := Option.map_eq_some_iff.1 (eq_of_beq hline)
  obtain ⟨⟨f, c⟩, howner, hnull⟩ := (Option.any_eq_true _ _).1 howner
  have hclauses := Attempt.toOption_eq_some.1 hlines
  have htable := (wellFormed_of_resolveWithin (Attempt.toOption_eq_some.1 hs)).table ht
  refine ⟨s, t, plan, lines, Attempt.toOption_eq_some.1 hs, ht, Attempt.toOption_eq_some.1 hplan,
    hclauses, hline, ⟨_, hgetter, rfl⟩, ?_⟩
  exact (Sql.declaresNotNull_iff htable hclauses).2 ⟨f, c, howner, by simpa using hnull⟩

end Emit

end Rowsmith

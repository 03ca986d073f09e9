/-
Counted columns are selected columns, field by field.

How many columns are read for a table is counted by a recursion that never
looks at a statement. What is read is a select list, which is the bare
columns of the table where nothing is followed, and otherwise what a walk has
gathered that numbers its joins as it goes. A reader that skips the columns
of an absent reference trusts the count, and is lost if the list has one
column more.

# The blocks

A select list is cut into one block for each field, in field order. A block
begins with the columns of its field; behind a reference that is followed it
goes on with what is selected for the referenced table, and nothing else is
in it (`ReadsField`). The cut is made along the description of a walk
(`Selects.blocks`), and the part behind a reference is compared with a
select list of the referenced table itself, which has the same columns by
other names (`Selects.sameColumns`).

A block is as long as its field is counted. The description says so of all
lists at once (`Selects.length_eq`), since the count behind a reference is
that of a whole list.
-/
import Rowsmith.Emit.Plan
import Rowsmith.Proofs.Follow.Termination
import Rowsmith.Proofs.Sql.Select

namespace Rowsmith

/-- A column of the table a statement is made for, as the select list names
it: by the table too, once other tables can be joined. -/
def Table.selected (t : Table) (policy : FollowPolicy) (c : Column) : ColumnRef :=
  if policy.follows then c.qualified t.name else c.bare

namespace Schema

variable {s : Schema} {t : Table} {name name' : String} {policy applied : FollowPolicy}
  {fields : List TableField} {f : TableField} {r : Reference} {joins joins' made : List Join}
  {columns columns' block : List ColumnRef}

-- =============================================================== counts

theorem fieldColumnCount_of_not_followed (h : f.reference? = none ∨ policy.follows = false) :
    s.fieldColumnCount f policy = f.columnCount := by
  unfold fieldColumnCount
  rcases h with hnone | hkeys
  · rw [hnone]
  · rw [hkeys]
    cases f.reference? <;> rfl

theorem fieldColumnCount_of_followed (hr : f.reference? = some r)
    (hfollows : policy.follows = true) :
    s.fieldColumnCount f policy = 1 + s.columnCount r.table policy.next := by
  unfold fieldColumnCount
  rw [hr]
  exact if_pos hfollows

/-- What is selected for fields is as much as is counted for them. -/
theorem Selects.length_eq (hs : s.WellFormed)
    (h : s.Selects t name applied fields joins columns) :
    columns.length = total (fields.map fun f => s.fieldColumnCount f applied) := by
  induction h with
  | done => rfl
  | @own _ _ _ f rest _ _ shallow _ ih =>
      rw [List.length_append, List.length_map, ih, List.map_cons, total,
        fieldColumnCount_of_not_followed shallow]
      rfl
  | @joined _ _ policy f r j rest _ _ block columns refers follows _ _ _ target _ _ _ ihInner ih =>
      have htarget : r.table = j.target.id := (hs.ids _ _ target).symm
      -- a list of the joined table is counted as the table is
      have hblock : block.length = s.columnCount r.table policy.next := by
        rw [ihInner, htarget, columnCount_eq_total hs (List.mem_of_getElem? target)]
      rw [List.length_cons, List.length_append, hblock, ih, List.map_cons, total,
        fieldColumnCount_of_followed refers follows]
      omega

-- ============================================================== columns

/-- Which columns are selected for fields does not depend on the names the
tables go by. -/
theorem Selects.sameColumns (h : s.Selects t name applied fields joins columns)
    (h' : s.Selects t name' applied fields joins' columns') :
    columns.map (·.column) = columns'.map (·.column) := by
  induction h generalizing name' joins' columns' with
  | done => cases h'; rfl
  | @own _ name _ f _ _ _ shallow _ ih =>
      cases h' with
      | own _ next' =>
          rw [List.map_append, List.map_append, ih next', List.map_map, List.map_map]
          rfl
      | joined refers' follows' =>
          rcases shallow with hnone | hkeys
          · rw [hnone] at refers'
            cases refers'
          · rw [hkeys] at follows'
            cases follows'
  | @joined _ _ _ f r j _ _ _ _ _ refers follows _ _ column target _ _ _ ihInner ih =>
      cases h' with
      | own shallow' =>
          rcases shallow' with hnone | hkeys
          · rw [hnone] at refers
            cases refers
          · rw [hkeys] at follows
            cases follows
      | @joined _ _ _ _ r' j' _ _ _ _ _ refers' _ _ _ column' target' _ inner' next' =>
          obtain rfl := Option.some.inj (refers.symm.trans refers')
          have htarget : j'.target = j.target := Option.some.inj (target'.symm.trans target)
          rw [htarget] at inner'
          have hcolumn : j.column = j'.column := by
            simpa using column.symm.trans column'
          rw [List.map_cons, List.map_append, ihInner inner', ih next', List.map_cons,
            List.map_append]
          exact congrArg (· :: _) hcolumn

/-- What a walk selects for a table are the columns of its select list. -/
theorem Selects.sameAsList (hs : s.WellFormed) (ht : t ∈ s.tables)
    (h : s.Selects t name (s.effective t.id policy) t.fields joins columns) :
    ∃ listed, s.selectColumns t policy = .ok listed ∧
      columns.map (·.column) = listed.map (·.column) := by
  unfold selectColumns
  by_cases hfollows : (s.effective t.id policy).follows = true
  · rw [if_pos hfollows]
    obtain ⟨w, hw, hselects, -⟩ := walk_ok hs ht policy
    exact ⟨w.columns, Attempt.bind_eq_ok.2 ⟨w, hw, rfl⟩, h.sameColumns hselects⟩
  · rw [if_neg hfollows]
    refine ⟨_, rfl, ?_⟩
    obtain ⟨-, rfl⟩ := h.of_not_follows (Bool.eq_false_iff.2 hfollows)
    rw [List.map_map, List.map_map]
    rfl

-- =============================================================== blocks

/-- What a statement reads behind a reference that is followed: it joins the
referenced table, whose own select list, under the policy that is left, has
the same columns. -/
structure ReadsBehind (s : Schema) (t : Table) (applied : FollowPolicy) (joins : List Join)
    (f : TableField) (r : Reference) (behind : List ColumnRef) : Prop where
  /-- The reference is joined, and what is read goes by names of the join
  or of joins behind it. -/
  joined : ∃ j ∈ joins, j.source = t ∧ j.sourceName = t.name ∧ f.columns = [j.column] ∧
    s.tables[r.table]? = some j.target ∧ s.keyColumn r = .ok j.targetColumn ∧
      ∃ deeper ⊆ joins, s.Selects j.target j.targetName (s.effective j.target.id applied.next)
        j.target.fields deeper behind
  /-- It reads the columns of the select list of the referenced table. -/
  listed : ∃ target columns, s.tables[r.table]? = some target ∧
    s.selectColumns target applied.next = .ok columns ∧
      behind.map (·.column) = columns.map (·.column)
  /-- They are as many as are counted for the referenced table. -/
  counted : behind.length = s.columnCount r.table applied.next

/-- A block of a select list reads a field: it has as many columns as are
counted for the field, begins with the field's own, and has no other unless
the field is a reference that is followed. -/
structure ReadsField (s : Schema) (t : Table) (policy : FollowPolicy) (joins : List Join)
    (f : TableField) (block : List ColumnRef) : Prop where
  counted : block.length = s.fieldColumnCount f (s.effective t.id policy)
  parts : ∃ behind,
    block = f.columns.map (t.selected (s.effective t.id policy)) ++ behind ∧
    (f.reference? = none ∨ (s.effective t.id policy).follows = false → behind = []) ∧
    ∀ r, f.reference? = some r →
      ((s.effective t.id policy).follows = true →
        s.ReadsBehind t (s.effective t.id policy) joins f r behind) ∧
      -- when the reference is absent, all that is behind it is skipped
      (Emit.referenceArm s t.id f r policy).skip = if f.nullable then behind.length else 0

/-- A field that is not followed is read by its own columns. -/
theorem readsField_own
    (h : f.reference? = none ∨ (s.effective t.id policy).follows = false) :
    s.ReadsField t policy joins f (f.columns.map (t.selected (s.effective t.id policy))) := by
  constructor
  case counted => rw [List.length_map, fieldColumnCount_of_not_followed h]; rfl
  case parts =>
    refine ⟨[], (List.append_nil _).symm, fun _ => rfl, fun r hr => ?_⟩
    have hkeys : (s.effective t.id policy).follows = false := by
      rcases h with hnone | hkeys
      · rw [hnone] at hr
        cases hr
      · exact hkeys
    refine ⟨fun hfollows => ?_, ?_⟩
    · rw [hkeys] at hfollows
      cases hfollows
    · unfold Emit.referenceArm
      simp [hkeys]

/-- A reference that is followed is read by its column and what is behind
it. -/
theorem readsField_joined (hr : f.reference? = some r)
    (hfollows : (s.effective t.id policy).follows = true)
    (hcolumns : f.columns.length = 1)
    (hbehind : s.ReadsBehind t (s.effective t.id policy) joins f r block) :
    s.ReadsField t policy joins f
      (f.columns.map (t.selected (s.effective t.id policy)) ++ block) := by
  constructor
  case counted =>
    rw [List.length_append, List.length_map, hcolumns, hbehind.counted,
      fieldColumnCount_of_followed hr hfollows]
  case parts =>
    refine ⟨block, rfl, fun hother => ?_, fun r' hr' => ?_⟩
    · rcases hother with hnone | hkeys
      · rw [hr] at hnone
        cases hnone
      · rw [hfollows] at hkeys
        cases hkeys
    · obtain rfl := Option.some.inj (hr.symm.trans hr')
      refine ⟨fun _ => hbehind, ?_⟩
      unfold Emit.referenceArm
      simp [hfollows, hbehind.counted]

/-- What a walk selects for fields of its own table is cut into blocks that
read them. -/
theorem Selects.blocks (hs : s.WellFormed) (happlied : applied = s.effective t.id policy)
    (hfollows : applied.follows = true) (h : s.Selects t t.name applied fields joins columns)
    (hmade : joins ⊆ made) :
    ∃ blocks : List (List ColumnRef), columns = blocks.flatten ∧
      List.Forall₂ (s.ReadsField t policy made) fields blocks := by
  have hselected : t.selected applied = (·.qualified t.name) := by
    funext c
    exact if_pos hfollows
  induction fields generalizing joins columns with
  | nil =>
      cases h
      exact ⟨[], rfl, .nil⟩
  | cons f rest ih =>
      cases h with
      | own shallow next =>
          obtain ⟨blocks, rfl, hblocks⟩ := ih next hmade
          refine ⟨_ :: blocks, rfl, .cons ?_ hblocks⟩
          rw [← hselected]
          subst happlied
          exact readsField_own shallow
      | @joined _ _ _ _ r j _ deeper joins block _ refers follows source sourceName column target
          targetColumn inner next =>
          obtain ⟨hj, hrest⟩ := List.cons_subset.1 hmade
          obtain ⟨hdeeper, hjoins⟩ := List.append_subset.1 hrest
          obtain ⟨blocks, rfl, hblocks⟩ := ih next hjoins
          subst happlied
          have htarget := List.mem_of_getElem? target
          have hid : r.table = j.target.id := (hs.ids _ _ target).symm
          obtain ⟨listed, hlisted, hsame⟩ := inner.sameAsList hs htarget
          have hbehind : s.ReadsBehind t (s.effective t.id policy) made f r block := by
            constructor
            case joined =>
              exact ⟨j, hj, source, sourceName, column, target, targetColumn, deeper, hdeeper,
                inner⟩
            case listed => exact ⟨j.target, listed, target, hlisted, hsame⟩
            case counted => rw [inner.length_eq hs, hid, columnCount_eq_total hs htarget]
          have hblock := readsField_joined refers follows (by rw [column]; rfl) hbehind
          refine ⟨_ :: blocks, ?_, .cons hblock hblocks⟩
          rw [List.flatten_cons, hselected, column]
          show j.sourceRef :: _ = _
          unfold Join.sourceRef
          rw [sourceName]
          rfl

/-- Without references to follow, the bare columns are cut into those of the
fields. -/
theorem readsFields_bare (hkeys : (s.effective t.id policy).follows = false)
    (fields : List TableField) :
    ∃ blocks : List (List ColumnRef), (fields.flatMap (·.columns)).map Column.bare = blocks.flatten ∧
      List.Forall₂ (s.ReadsField t policy joins) fields blocks := by
  have hselected : t.selected (s.effective t.id policy) = Column.bare := by
    funext c
    exact if_neg (Bool.eq_false_iff.1 hkeys)
  induction fields with
  | nil => exact ⟨[], rfl, .nil⟩
  | cons f rest ih =>
      obtain ⟨blocks, hcolumns, hblocks⟩ := ih
      refine ⟨_ :: blocks, ?_, .cons (readsField_own (Or.inr hkeys)) hblocks⟩
      rw [List.flatMap_cons, List.map_append, hcolumns, List.flatten_cons, hselected]

/-- Blocks that read fields are as long as the fields are counted. -/
theorem length_flatten_of_readsFields {blocks : List (List ColumnRef)}
    (h : List.Forall₂ (s.ReadsField t policy joins) fields blocks) :
    blocks.flatten.length =
      total (fields.map fun f => s.fieldColumnCount f (s.effective t.id policy)) := by
  induction h with
  | nil => rfl
  | cons hread _ ih =>
      rw [List.flatten_cons, List.length_append, hread.counted, ih, List.map_cons]
      rfl

/-- The columns that are counted are the columns that are selected. For every
table of a resolved schema and every policy, the select list is put together
from one block for each field, in field order, and each block reads its field
(`ReadsField`): it is as long as the field is counted under the policy that
is applied, begins with the columns of the field, and, behind a reference
that is followed, goes on with what is selected for the referenced table. So
the table is counted as many columns as are selected for it, and an absent
reference skips just those behind it. -/
theorem select_blocks {room : Nat}
    {answers : List TypeExpr → TypeExpr → Except Failure (List FieldDecl)} {locator : Locator}
    {request : Request} {s : Schema} (h : resolveWithin room answers locator request = .ok s)
    {t : Table} (ht : t ∈ s.tables) (policy : FollowPolicy) :
    ∃ columns joins blocks, s.selectColumns t policy = .ok columns ∧
      s.joins t policy = .ok joins ∧ columns = blocks.flatten ∧
      List.Forall₂ (s.ReadsField t policy joins) t.fields blocks ∧
      s.columnCount t.id policy = columns.length := by
  have hs := wellFormed_of_resolveWithin h
  obtain ⟨w, hw, hselects, -⟩ := walk_ok hs ht policy
  have hjoins : s.joins t policy = .ok w.joins := Attempt.bind_eq_ok.2 ⟨w, hw, rfl⟩
  have hlist : ∃ columns blocks, s.selectColumns t policy = .ok columns ∧
      columns = blocks.flatten ∧ List.Forall₂ (s.ReadsField t policy w.joins) t.fields blocks := by
    unfold selectColumns
    by_cases hfollows : (s.effective t.id policy).follows = true
    · rw [if_pos hfollows]
      obtain ⟨blocks, hcolumns, hblocks⟩ :=
        hselects.blocks hs rfl hfollows (List.Subset.refl _)
      exact ⟨w.columns, blocks, Attempt.bind_eq_ok.2 ⟨w, hw, rfl⟩, hcolumns, hblocks⟩
    · rw [if_neg hfollows]
      obtain ⟨blocks, hcolumns, hblocks⟩ :=
        readsFields_bare (Bool.eq_false_iff.2 hfollows) t.fields
      exact ⟨_, blocks, rfl, hcolumns, hblocks⟩
  obtain ⟨columns, blocks, hcolumns, hflatten, hblocks⟩ := hlist
  refine ⟨columns, w.joins, blocks, hcolumns, hjoins, hflatten, hblocks, ?_⟩
  rw [hflatten, length_flatten_of_readsFields hblocks, columnCount_eq_total hs ht]

/-- The eleven columns of a review are cut into three blocks. -/
theorem select_blocks_review :
    ∃ s t columns joins blocks, resolve Sql.reviewCatalog.describer Registry.empty.locator
        Sql.reviewRequest = .ok s ∧ t ∈ s.tables ∧ s.selectColumns t .all = .ok columns ∧
      columns.length = 11 ∧ columns = blocks.flatten ∧ blocks.length = 3 ∧
      List.Forall₂ (s.ReadsField t .all joins) t.fields blocks := by
  have hfound : ((resolve Sql.reviewCatalog.describer Registry.empty.locator
      Sql.reviewRequest).toOption.bind fun s => s.tables.find? fun t =>
        s.columnCount t.id .all == 11 && t.fields.length == 3).isSome = true := by
    decide +kernel
  obtain ⟨t, hfound⟩ := Option.isSome_iff_exists.1 hfound
  obtain ⟨s, hs, hfind⟩ := Option.bind_eq_some_iff.1 hfound
  have ht := List.mem_of_find?_eq_some hfind
  have hreview := List.find?_some hfind
  obtain ⟨hcount, hfields⟩ := Bool.and_eq_true_iff.1 hreview
  obtain ⟨columns, joins, blocks, hcolumns, -, hflatten, hblocks, hlength⟩ :=
    select_blocks (Attempt.toOption_eq_some.1 hs) ht .all
  refine ⟨s, t, columns, joins, blocks, Attempt.toOption_eq_some.1 hs, ht, hcolumns, ?_, hflatten,
    ?_, hblocks⟩
  · rw [← hlength]
    exact eq_of_beq hcount
  · rw [← hblocks.length_eq]
    exact eq_of_beq hfields

end Schema

end Rowsmith

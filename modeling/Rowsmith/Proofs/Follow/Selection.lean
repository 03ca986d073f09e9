/-
What a statement selects for a table, and through which joins.

The columns and the joins of a statement are collected in one walk along
the references of its table. The walk is a recursion that changes what
was collected so far, and how a joined table is named depends on all that
was joined before it. Here what it collects is described on its own.

# The description

`Selects` follows the fields of a table. A field that is not followed
gives its columns, qualified by the name the table goes by. A reference
that is followed gives its own column, the join, and then all that is
selected for the joined table under the name the join gives it. Names are
not fixed by this; they come from how often each table was brought in
before (`Numbered`). A walk appends exactly such a description
(`visitTable_extends`).

Everything that is said of a statement is read off the description: what
its columns are (`Selects.complete`), in which order the columns of its
own table come (`Selects.inOrder`), and where each join stands
(`Selects.joinPlaced`).
-/
import Rowsmith.Proofs.Follow.Layout
import Mathlib.Data.List.Perm.Basic

namespace Rowsmith

/-- All columns of the joined table, under the name the join gives it. -/
def Join.targetRefs (j : Join) : List ColumnRef := j.target.columns.map (·.qualified j.targetName)

-- ================================================================ lists

/-- An item of two lists that are put together is in one of them. -/
theorem split_of_append_eq {α : Type} {l l' before after : List α} {a : α}
    (h : l ++ l' = before ++ a :: after) :
    (∃ middle, l = before ++ a :: middle ∧ after = middle ++ l') ∨
      ∃ middle, before = l ++ middle ∧ l' = middle ++ a :: after := by
  rcases List.append_eq_append_iff.1 h with ⟨middle, hbefore, hl'⟩ | ⟨middle, hl, hafter⟩
  · exact Or.inr ⟨middle, hbefore, hl'⟩
  · cases middle with
    | nil => exact Or.inr ⟨[], by simpa using hl.symm, by simpa using hafter.symm⟩
    | cons b middle =>
        obtain ⟨rfl, rfl⟩ := List.cons.inj hafter
        exact Or.inl ⟨middle, hl, rfl⟩

-- ============================================================ numbering

/-- Joins are numbered: each is given the alias that the name of its
target has by how often it was brought in before, by the names taken from
the start and by the joins made earlier. -/
def Numbered : List String → List Join → Prop
  | _, [] => True
  | taken, j :: rest =>
    j.rename = Walk.aliasFor j.target.name (taken.count j.target.name + 1) ∧
      Numbered (taken ++ [j.target.name]) rest

theorem numbered_append {taken : List String} {joins joins' : List Join} :
    Numbered taken (joins ++ joins') ↔
      Numbered taken joins ∧ Numbered (taken ++ joins.map (·.target.name)) joins' := by
  induction joins generalizing taken with
  | nil => simp [Numbered]
  | cons j joins ih => simp [Numbered, ih, and_assoc]

namespace Walk

variable {w w' w'' : Walk} {joins joins' : List Join} {columns columns' : List ColumnRef}

/-- A walk knows how often each of the names taken was brought in. -/
def Counts (w : Walk) (taken : List String) : Prop := ∀ name, w.usesOf name = taken.count name

/-- A walk goes on by joins and columns, and the joins are numbered after
the names it has counted. -/
structure Extends (w w' : Walk) (made : List Join) (selected : List ColumnRef) : Prop where
  columns : w'.columns = w.columns ++ selected
  joins : w'.joins = w.joins ++ made
  counts : ∀ taken, w.Counts taken →
    Numbered taken made ∧ w'.Counts (taken ++ made.map (·.target.name))

theorem Extends.refl (w : Walk) : w.Extends w [] [] where
  columns := (List.append_nil _).symm
  joins := (List.append_nil _).symm
  counts taken h := ⟨trivial, by simpa using h⟩

theorem Extends.trans (h : w.Extends w' joins columns) (h' : w'.Extends w'' joins' columns') :
    w.Extends w'' (joins ++ joins') (columns ++ columns') := by
  constructor
  case columns => rw [h'.columns, h.columns, List.append_assoc]
  case joins => rw [h'.joins, h.joins, List.append_assoc]
  case counts =>
    intro taken htaken
    obtain ⟨hnumbered, hcounts⟩ := h.counts taken htaken
    obtain ⟨hnumbered', hcounts'⟩ := h'.counts _ hcounts
    refine ⟨numbered_append.2 ⟨hnumbered, hnumbered'⟩, ?_⟩
    rwa [List.map_append, ← List.append_assoc]

/-- Columns are collected without naming a table. -/
theorem extends_columns (w : Walk) (columns : List ColumnRef) :
    w.Extends { w with columns := w.columns ++ columns } [] columns where
  columns := rfl
  joins := (List.append_nil _).symm
  counts taken h := by
    rw [List.map_nil, List.append_nil]
    exact ⟨trivial, h⟩

/-- A join is given the next alias of its target, whose name is then
counted once more. -/
theorem extends_join (w : Walk) (j : Join)
    (hj : j.rename = aliasFor j.target.name (w.usesOf j.target.name + 1)) :
    w.Extends { w with
      joins := w.joins ++ [j]
      uses := putAssoc w.uses j.target.name (w.usesOf j.target.name + 1) } [j] [] := by
  constructor
  case columns => exact (List.append_nil _).symm
  case joins => rfl
  case counts =>
    intro taken htaken
    refine ⟨⟨by rw [hj, htaken], trivial⟩, fun name => ?_⟩
    rw [List.map_singleton, List.count_append, ← htaken name]
    unfold usesOf
    rw [findAssoc?_putAssoc]
    by_cases hname : j.target.name = name
    · subst hname
      simp
    · simp [hname]

end Walk

namespace Schema

variable {s : Schema} {n : Nat} {t : Table} {name : String} {policy : FollowPolicy}
  {fields : List TableField} {f : TableField} {joins : List Join} {columns : List ColumnRef}

-- ========================================================== description

/-- What a statement selects for fields of a table that goes by a name,
and the joins it takes, under the policy that is applied to the table. -/
inductive Selects (s : Schema) :
    Table → String → FollowPolicy → List TableField → List Join → List ColumnRef → Prop
  -- There are no fields left.
  | done {t : Table} {name : String} {policy : FollowPolicy} : Selects s t name policy [] [] []
  -- A field that is not followed gives its own columns.
  | own {t : Table} {name : String} {policy : FollowPolicy} {f : TableField}
      {rest : List TableField} {joins : List Join} {columns : List ColumnRef}
      (shallow : f.reference? = none ∨ policy.follows = false)
      (next : Selects s t name policy rest joins columns) :
      Selects s t name policy (f :: rest) joins (f.columns.map (·.qualified name) ++ columns)
  -- A reference that is followed gives its column, and then what is
  -- selected for the joined table.
  | joined {t : Table} {name : String} {policy : FollowPolicy} {f : TableField} {r : Reference}
      {j : Join} {rest : List TableField} {deeper joins : List Join}
      {block columns : List ColumnRef}
      (refers : f.reference? = some r) (follows : policy.follows = true)
      (source : j.source = t) (sourceName : j.sourceName = name) (column : f.columns = [j.column])
      (target : s.tables[r.table]? = some j.target)
      (targetColumn : s.keyColumn r = .ok j.targetColumn)
      (inner : Selects s j.target j.targetName (s.effective j.target.id policy.next)
        j.target.fields deeper block)
      (next : Selects s t name policy rest joins columns) :
      Selects s t name policy (f :: rest) (j :: (deeper ++ joins))
        (j.sourceRef :: (block ++ columns))

/-- Where nothing is followed there are no joins, and the columns come in
field order. -/
theorem Selects.of_not_follows (h : s.Selects t name policy fields joins columns)
    (hpolicy : policy.follows = false) :
    joins = [] ∧ columns = (fields.flatMap (·.columns)).map (·.qualified name) := by
  induction h with
  | done => exact ⟨rfl, rfl⟩
  | own _ _ ih =>
      obtain ⟨rfl, rfl⟩ := ih hpolicy
      exact ⟨rfl, by rw [List.flatMap_cons, List.map_append]⟩
  | joined _ follows =>
      rw [hpolicy] at follows
      cases follows

/-- The columns are those of the fields and, for each join, all columns of
the joined table: none is missing and none comes twice. -/
theorem Selects.complete (h : s.Selects t name policy fields joins columns) :
    columns.Perm ((fields.flatMap (·.columns)).map (·.qualified name) ++
      joins.flatMap Join.targetRefs) := by
  induction h with
  | done => exact .refl _
  | own _ _ ih =>
      rw [List.flatMap_cons, List.map_append, List.append_assoc]
      exact ih.append_left _
  | @joined t name policy f r j rest deeper joins block columns _ _ _ sourceName column _ _ _ _
      ihInner ih =>
      have hown : f.columns.map (·.qualified name) = [j.sourceRef] := by
        rw [column, ← sourceName]
        rfl
      rw [List.flatMap_cons, List.map_append, hown, List.flatMap_cons, List.flatMap_append,
        List.singleton_append, List.cons_append, ← List.append_assoc j.targetRefs]
      refine .cons _ ?_
      -- what is selected behind the join changes places with the other fields
      exact (ihInner.append ih).trans (List.perm_append_comm_assoc ..)

/-- The columns of the fields come in field order, whatever comes between
them. -/
theorem Selects.inOrder (h : s.Selects t name policy fields joins columns) :
    ((fields.flatMap (·.columns)).map (·.qualified name)).Sublist columns := by
  induction h with
  | done => exact .slnil
  | own _ _ ih =>
      rw [List.flatMap_cons, List.map_append]
      exact ih.append_left _
  | @joined t name policy f r j rest deeper joins block columns _ _ _ sourceName column _ _ _ _
      _ ih =>
      rw [List.flatMap_cons, List.map_append, column, ← sourceName]
      refine .cons_cons _ ?_
      rw [sourceName]
      exact ih.trans (List.sublist_append_right ..)

/-- Every column is one of a table of the statement, qualified by the name
that table goes by. -/
theorem Selects.inScope (h : s.Selects t name policy fields joins columns) {ref : ColumnRef}
    (href : ref ∈ columns) :
    (ref.qualifier = some name ∧ ref.column ∈ fields.flatMap (·.columns)) ∨
      ∃ j ∈ joins, ref.qualifier = some j.targetName ∧ ref.column ∈ j.target.columns := by
  rcases List.mem_append.1 (h.complete.mem_iff.1 href) with hown | hjoined
  · obtain ⟨c, hc, rfl⟩ := List.mem_map.1 hown
    exact Or.inl ⟨rfl, hc⟩
  · obtain ⟨j, hj, href⟩ := List.mem_flatMap.1 hjoined
    obtain ⟨c, hc, rfl⟩ := List.mem_map.1 href
    exact Or.inr ⟨j, hj, rfl, hc⟩

-- =============================================================== places

/-- Where a join stands in a statement for a table that goes by a name:
`before` are the joins made earlier, and `after` those made later. -/
structure JoinPlaced (s : Schema) (t : Table) (name : String) (columns : List ColumnRef)
    (before : List Join) (j : Join) (after : List Join) : Prop where
  /-- The join follows a reference of its source to its target, and
  compares it with the key there. -/
  follows : ∃ f ∈ j.source.fields, ∃ r, f.reference? = some r ∧ f.columns = [j.column] ∧
    s.tables[r.table]? = some j.target ∧ s.keyColumn r = .ok j.targetColumn
  /-- Its source is in the statement already, under the name it uses. -/
  sourceInScope : (j.source = t ∧ j.sourceName = name) ∨
    ∃ j' ∈ before, j'.target = j.source ∧ j'.targetName = j.sourceName
  /-- The column of the reference is selected, and directly after it all
  that is selected for the target, through the joins made next. -/
  block : ∃ policy deeper rest left block right, after = deeper ++ rest ∧
    columns = left ++ j.sourceRef :: (block ++ right) ∧
    s.Selects j.target j.targetName policy j.target.fields deeper block

/-- A join keeps its place among more joins and columns, if the table its
source was reached from is in the statement too. -/
theorem JoinPlaced.extend {t' : Table} {name' : String} {columns' : List ColumnRef}
    {before after before' after' : List Join} {j : Join}
    (h : s.JoinPlaced t name columns before j after)
    (hcolumns : ∃ left right, columns' = left ++ (columns ++ right)) (hbefore : before ⊆ before')
    (hafter : after <+: after')
    (hscope : (t' = t ∧ name' = name) ∨ ∃ j' ∈ before', j'.target = t ∧ j'.targetName = name) :
    s.JoinPlaced t' name' columns' before' j after' := by
  constructor
  case follows => exact h.follows
  case sourceInScope =>
    rcases h.sourceInScope with ⟨hsource, hname⟩ | ⟨j', hj', hsource⟩
    · rcases hscope with ⟨rfl, rfl⟩ | ⟨j', hj', htarget, htargetName⟩
      · exact Or.inl ⟨hsource, hname⟩
      · exact Or.inr ⟨j', hj', htarget.trans hsource.symm, htargetName.trans hname.symm⟩
    · exact Or.inr ⟨j', hbefore hj', hsource⟩
  case block =>
    obtain ⟨policy, deeper, rest, left', block, right', rfl, rfl, hblock⟩ := h.block
    obtain ⟨left, right, rfl⟩ := hcolumns
    obtain ⟨more, rfl⟩ := hafter
    exact ⟨policy, deeper, rest ++ more, left ++ left', block, right' ++ right,
      List.append_assoc .., by simp, hblock⟩

/-- Every join stands in its place. -/
theorem Selects.joinPlaced (h : s.Selects t name policy fields joins columns)
    (hfields : fields ⊆ t.fields) {before after : List Join} {j : Join}
    (hj : joins = before ++ j :: after) : s.JoinPlaced t name columns before j after := by
  induction h generalizing before j after with
  | done => simp at hj
  | own _ _ ih =>
      have hplaced := ih (List.subset_of_cons_subset hfields) hj
      exact hplaced.extend ⟨_, [], by rw [List.append_nil]⟩ (List.Subset.refl _) List.prefix_rfl
        (Or.inl ⟨rfl, rfl⟩)
  | @joined t name policy f r k rest deeper joins block columns refers _ source sourceName column
      target targetColumn inner _ ihInner ih =>
      cases before with
      | nil =>
          -- the join by which the field itself is followed
          obtain ⟨rfl, rfl⟩ := List.cons.inj hj
          refine ⟨⟨f, ?_, r, refers, column, target, targetColumn⟩, Or.inl ⟨source, sourceName⟩,
            ⟨_, deeper, joins, [], block, columns, rfl, rfl, inner⟩⟩
          rw [source]
          exact hfields List.mem_cons_self
      | cons k' before =>
          obtain ⟨rfl, hrest⟩ := List.cons.inj hj
          rcases split_of_append_eq hrest with ⟨middle, hdeeper, rfl⟩ | ⟨middle, rfl, hjoins⟩
          · -- a join made behind it: its own table is what this join brought in
            have hplaced := ihInner (List.Subset.refl _) hdeeper
            exact hplaced.extend ⟨[k.sourceRef], columns, rfl⟩ (List.subset_cons_self ..)
              (List.prefix_append ..) (Or.inr ⟨k, List.mem_cons_self, rfl, rfl⟩)
          · -- a join of one of the other fields
            have hplaced := ih (List.subset_of_cons_subset hfields) hjoins
            exact hplaced.extend ⟨k.sourceRef :: block, [], by simp⟩
              (fun k' hk' => List.mem_cons_of_mem _ (List.mem_append_right _ hk'))
              List.prefix_rfl (Or.inl ⟨rfl, rfl⟩)

-- ================================================================= walk

/-- A walk over a field goes on by what is selected for the field. -/
theorem visitField_extends (h : s.WellFormed) (ht : t ∈ s.tables) (hf : f ∈ t.fields)
    {visit : Table → String → FollowPolicy → Walk → Except Defect Walk}
    (hvisit : policy.follows = true → ∀ r, f.reference? = some r → ∀ target,
      s.tables[r.table]? = some target → ∀ name w, ∃ w' deeper block,
        visit target name policy.next w = .ok w' ∧ w.Extends w' deeper block ∧
          s.Selects target name (s.effective target.id policy.next) target.fields deeper block)
    (name : String) (w : Walk) :
    ∃ w' joins columns, s.visitField visit t name policy w f = .ok w' ∧
      w.Extends w' joins columns ∧
      ∀ rest joins' columns', s.Selects t name policy rest joins' columns' →
        s.Selects t name policy (f :: rest) (joins ++ joins') (columns ++ columns') := by
  have hown := w.extends_columns (f.columns.map (·.qualified name))
  unfold visitField
  dsimp only
  cases hr : f.reference? with
  | none => exact ⟨_, _, _, rfl, hown, fun _ _ _ hnext => .own (Or.inl hr) hnext⟩
  | some r =>
      dsimp only
      by_cases hfollows : policy.follows = true
      · rw [if_pos hfollows]
        obtain ⟨target, key, column, htarget, -, -, -, -, hcolumn⟩ :=
          h.referenced (h.references t ht f hf r hr)
        obtain ⟨own, hcolumns⟩ := (h.laid t ht f hf).reference hr
        rw [table_eq_ok.2 htarget, TableField.column_eq_ok.2 hcolumns, hcolumn]
        -- the join, and the walk behind it
        obtain ⟨w', deeper, block, hw', hdeeper, hselects⟩ := hvisit hfollows r hr target htarget
          _ _
        refine ⟨w', _, _, hw', (hown.trans (Walk.extends_join _ _ rfl)).trans hdeeper, ?_⟩
        intro rest joins' columns' hnext
        rw [hcolumns]
        exact .joined hr hfollows rfl rfl hcolumns htarget hcolumn hselects hnext
      · rw [if_neg hfollows]
        refine ⟨_, _, _, rfl, hown, fun _ _ _ hnext => .own (Or.inr ?_) hnext⟩
        exact Bool.eq_false_iff.2 hfollows

/-- A walk over fields goes on by what is selected for them, if the walks
over the tables they are followed to do. -/
theorem visitFields_extends (h : s.WellFormed) (ht : t ∈ s.tables)
    {visit : Table → String → FollowPolicy → Walk → Except Defect Walk}
    (hvisit : policy.follows = true → ∀ next ∈ s.successors t.id, ∀ target,
      s.tables[next]? = some target → ∀ name w, ∃ w' deeper block,
        visit target name policy.next w = .ok w' ∧ w.Extends w' deeper block ∧
          s.Selects target name (s.effective target.id policy.next) target.fields deeper block)
    (name : String) (hfields : fields ⊆ t.fields) (w : Walk) :
    ∃ w' joins columns, fields.foldlM (s.visitField visit t name policy) w = .ok w' ∧
      w.Extends w' joins columns ∧ s.Selects t name policy fields joins columns := by
  induction fields generalizing w with
  | nil => exact ⟨w, [], [], rfl, .refl w, .done⟩
  | cons f rest ih =>
      have hf : f ∈ t.fields := hfields List.mem_cons_self
      obtain ⟨w₁, joins₁, columns₁, hw₁, hextends₁, hselects₁⟩ :=
        visitField_extends h ht hf (fun hfollows r hr target htarget =>
          hvisit hfollows r.table (mem_successors (table_eq_ok.1 (h.table ht)) hf hr) target
            htarget) name w
      obtain ⟨w₂, joins₂, columns₂, hw₂, hextends₂, hselects₂⟩ :=
        ih (List.subset_of_cons_subset hfields) w₁
      refine ⟨w₂, _, _, ?_, hextends₁.trans hextends₂, hselects₁ _ _ _ hselects₂⟩
      rw [List.foldlM_cons]
      exact Attempt.bind_eq_ok.2 ⟨w₁, hw₁, hw₂⟩

/-- A walk over a table goes on by what is selected for it. -/
theorem visitTable_extends (h : s.WellFormed) (hn : s.ChainsEnd n t.id policy) (ht : t ∈ s.tables)
    (name : String) (w : Walk) :
    ∃ w' joins columns, s.visitTable n t name policy w = .ok w' ∧ w.Extends w' joins columns ∧
      s.Selects t name (s.effective t.id policy) t.fields joins columns := by
  -- on the bound, which covers one join less at each table
  induction n generalizing t name policy w with
  | zero => exact hn.elim
  | succ n ih =>
      unfold visitTable
      refine visitFields_extends h ht (fun hfollows next hnext target htarget name w => ?_) name
        (List.Subset.refl _) w
      have hid := h.ids next target htarget
      exact ih (hid ▸ hn hfollows next hnext) (List.mem_of_getElem? htarget) name w

/-- The walk from a table collects what is selected for it, with joins
numbered after its own name. -/
theorem walk_ok (h : s.WellFormed) (ht : t ∈ s.tables) (policy : FollowPolicy) :
    ∃ w, s.walk t policy = .ok w ∧
      s.Selects t t.name (s.effective t.id policy) t.fields w.joins w.columns ∧
      Numbered [t.name] w.joins := by
  have hbound : s.ChainsEnd s.chainBound t.id policy :=
    (s.chainsEnd t.id policy).mono (by rw [chainBound_eq]; omega)
  obtain ⟨w, joins, columns, hw, hextends, hselects⟩ :=
    visitTable_extends h hbound ht t.name ⟨[], [], [(t.name, 1)]⟩
  have hjoins : w.joins = joins := hextends.joins
  have hcolumns : w.columns = columns := hextends.columns
  rw [← hjoins, ← hcolumns] at hselects
  refine ⟨w, hw, hselects, ?_⟩
  rw [hjoins]
  refine (hextends.counts [t.name] fun name => ?_).1
  by_cases hname : t.name = name <;> simp [Walk.usesOf, findAssoc?, hname]

end Schema

end Rowsmith

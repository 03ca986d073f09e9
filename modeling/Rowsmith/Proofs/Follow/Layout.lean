/-
The layout of a row: how the columns that are read for a table under a
policy are stored, in row order.

The columns of a table come in field order, and those of a table that is
joined come directly after the reference by which it is (`layout_eq`).
Both what is selected and what is counted agree with it: the selected
columns are stored as the layout says (`selectColumns_ok`), and they are
as many as are counted (`length_layout`, `length_fieldLayout`). Whoever
reads a row therefore only has to be compared with the layout.
-/
import Rowsmith.Proofs.Attempt
import Rowsmith.Proofs.Follow.Chains
import Rowsmith.Proofs.Schema.WellFormed
import Mathlib.Data.List.Basic

namespace Rowsmith

/-- How the columns a walk has collected are stored. -/
def Walk.storages (w : Walk) : List Storage := w.columns.map (·.column.storage)

namespace Schema

variable {s : Schema} {n m : Nat} {id : TableId} {policy : FollowPolicy} {t : Table}
  {f : TableField} {r : Reference}

-- =============================================================== layout

/-- How the columns read for a table are stored, as far as chains of joins
of a bounded length go. -/
def layoutWithin (s : Schema) : Nat → TableId → FollowPolicy → List Storage
  | 0, _, _ => []
  | bound + 1, id, policy =>
    match s.tables[id]? with
    | none => []
    | some t => t.fields.flatMap fun f =>
        f.columns.map (·.storage) ++
          match f.reference? with
          | some r =>
            if (s.effective id policy).follows then
              s.layoutWithin bound r.table (s.effective id policy).next
            else []
          | none => []

/-- How the columns read for a table are stored, in row order. -/
def layout (s : Schema) (id : TableId) (policy : FollowPolicy) : List Storage :=
  s.layoutWithin s.chainBound id policy

/-- How the columns read for a field are stored, under the policy applied
to its table: its own, then those of the table it is followed to. -/
def fieldLayout (s : Schema) (policy : FollowPolicy) (f : TableField) : List Storage :=
  f.columns.map (·.storage) ++
    match f.reference? with
    | some r => if policy.follows then s.layout r.table policy.next else []
    | none => []

theorem layoutWithin_stable (h : s.ChainsEnd n id policy) (hnm : n ≤ m) :
    s.layoutWithin m id policy = s.layoutWithin n id policy := by
  induction n generalizing m id policy with
  | zero => exact h.elim
  | succ n ih =>
      cases m with
      | zero => omega
      | succ m =>
          unfold layoutWithin
          cases ht : s.tables[id]? with
          | none => rfl
          | some t =>
              refine List.flatMap_congr fun f hf => ?_
              cases hr : f.reference? with
              | none => rfl
              | some r =>
                  by_cases hfollows : (s.effective id policy).follows = true
                  · -- the chain goes on behind the join with one table less
                    have hnext := h hfollows r.table (mem_successors ht hf hr)
                    dsimp only
                    rw [if_pos hfollows, if_pos hfollows, ih hnext (by omega)]
                  · dsimp only
                    rw [if_neg hfollows, if_neg hfollows]

/-- The layout of a table is that of its fields, one after the other. -/
theorem layout_eq (ht : s.tables[id]? = some t) (policy : FollowPolicy) :
    s.layout id policy = t.fields.flatMap (s.fieldLayout (s.effective id policy)) := by
  unfold layout
  rw [chainBound_eq]
  unfold layoutWithin
  rw [ht]
  refine List.flatMap_congr fun f _ => ?_
  unfold fieldLayout
  cases f.reference? with
  | none => rfl
  | some r =>
      -- behind the join the bound is one too large, which does not matter
      have hstable : s.layout r.table (s.effective id policy).next =
          s.layoutWithin (s.tables.length + 1) r.table (s.effective id policy).next :=
        layoutWithin_stable (s.chainsEnd r.table _) (by rw [chainBound_eq]; omega)
      dsimp only
      rw [hstable]

-- =============================================================== counts

/-- Columns are counted as they are laid out. -/
theorem length_layoutWithin (h : s.WellFormed) (n : Nat) (id : TableId) (policy : FollowPolicy) :
    (s.layoutWithin n id policy).length = s.columnCountWithin n id policy := by
  induction n generalizing id policy with
  | zero => rfl
  | succ n ih =>
      unfold layoutWithin columnCountWithin
      cases ht : s.tables[id]? with
      | none => rfl
      | some t =>
          dsimp only
          rw [length_flatMap_eq_total]
          refine congrArg total (List.map_congr_left fun f hf => ?_)
          rw [List.length_append, List.length_map]
          cases hr : f.reference? with
          | none => rfl
          | some r =>
              obtain ⟨name, hcolumns⟩ := (h.laid t (List.mem_of_getElem? ht) f hf).reference hr
              dsimp only
              by_cases hfollows : (s.effective id policy).follows = true
              · rw [if_pos hfollows, if_pos hfollows, ih, hcolumns]
                rfl
              · rw [if_neg hfollows, if_neg hfollows]
                rfl

theorem length_layout (h : s.WellFormed) (id : TableId) (policy : FollowPolicy) :
    (s.layout id policy).length = s.columnCount id policy :=
  length_layoutWithin h s.chainBound id policy

theorem length_fieldLayout (h : s.WellFormed) (hf : f.Laid) (policy : FollowPolicy) :
    (s.fieldLayout policy f).length = s.fieldColumnCount f policy := by
  unfold fieldLayout fieldColumnCount
  rw [List.length_append, List.length_map]
  cases hr : f.reference? with
  | none => rfl
  | some r =>
      obtain ⟨name, hcolumns⟩ := hf.reference hr
      dsimp only
      by_cases hfollows : policy.follows = true
      · rw [if_pos hfollows, if_pos hfollows, length_layout h, hcolumns]
        rfl
      · rw [if_neg hfollows, if_neg hfollows]
        rfl

-- ================================================================= walk

/-- A walk over a field appends what the field and, if it is followed,
the walk behind it append. -/
theorem visitField_ok (h : s.WellFormed) (ht : t ∈ s.tables) (hf : f ∈ t.fields)
    {visit : Table → String → FollowPolicy → Walk → Except Defect Walk}
    {behind : TableId → FollowPolicy → List Storage}
    (hvisit : ∀ target ∈ s.tables, ∀ name policy w, ∃ w',
      visit target name policy w = .ok w' ∧ w'.storages = w.storages ++ behind target.id policy)
    (name : String) (policy : FollowPolicy) (w : Walk) :
    ∃ w', s.visitField visit t name policy w f = .ok w' ∧
      w'.storages = w.storages ++ (f.columns.map (·.storage) ++
        match f.reference? with
        | some r => if policy.follows then behind r.table policy.next else []
        | none => []) := by
  have hown : ({ w with columns := w.columns ++ f.columns.map fun c => c.qualified name } :
      Walk).storages = w.storages ++ f.columns.map (·.storage) := by
    unfold Walk.storages
    rw [List.map_append, List.map_map]
    rfl
  unfold visitField
  dsimp only
  cases hr : f.reference? with
  | none =>
      exact ⟨_, rfl, by rw [hown, List.append_nil]⟩
  | some r =>
      dsimp only
      by_cases hfollows : policy.follows = true
      · rw [if_pos hfollows, if_pos hfollows]
        obtain ⟨target, key, column, htarget, -, -, -, -, hcolumn⟩ :=
          h.referenced (h.references t ht f hf r hr)
        obtain ⟨own, hcolumns⟩ := (h.laid t ht f hf).reference hr
        rw [table_eq_ok.2 htarget, TableField.column_eq_ok.2 hcolumns, hcolumn]
        obtain ⟨w', hw', hstorages⟩ :=
          hvisit target (List.mem_of_getElem? htarget) _ policy.next _
        refine ⟨w', hw', ?_⟩
        rw [hstorages, ← List.append_assoc, ← hown, h.ids r.table target htarget]
        rfl
      · rw [if_neg hfollows, if_neg hfollows]
        exact ⟨_, rfl, by rw [hown, List.append_nil]⟩

/-- A walk over a table appends its layout. -/
theorem visitTable_ok (h : s.WellFormed) (n : Nat) (ht : t ∈ s.tables) (name : String)
    (policy : FollowPolicy) (w : Walk) :
    ∃ w', s.visitTable n t name policy w = .ok w' ∧
      w'.storages = w.storages ++ s.layoutWithin n t.id policy := by
  induction n generalizing t name policy w with
  | zero => exact ⟨w, rfl, (List.append_nil _).symm⟩
  | succ n ih =>
      unfold visitTable layoutWithin
      rw [table_eq_ok.1 (h.table ht)]
      exact Attempt.foldlM_appends Walk.storages _ (fun f hf w => visitField_ok h ht hf
        (fun target htarget name policy w => ih htarget name policy w) name _ w) w

/-- The columns selected for a table are stored as its layout says. -/
theorem selectColumns_ok (h : s.WellFormed) (ht : t ∈ s.tables) (policy : FollowPolicy) :
    ∃ columns, s.selectColumns t policy = .ok columns ∧
      columns.map (·.column.storage) = s.layout t.id policy := by
  unfold selectColumns
  by_cases hfollows : (s.effective t.id policy).follows = true
  · rw [if_pos hfollows]
    obtain ⟨w, hw, hstorages⟩ :=
      visitTable_ok h s.chainBound ht t.name policy ⟨[], [], [(t.name, 1)]⟩
    exact ⟨w.columns, Attempt.bind_eq_ok.2 ⟨w, hw, rfl⟩, hstorages⟩
  · rw [if_neg hfollows, layout_eq (table_eq_ok.1 (h.table ht))]
    refine ⟨_, rfl, ?_⟩
    unfold Table.columns
    rw [List.map_map, List.map_flatMap]
    refine List.flatMap_congr fun f _ => ?_
    unfold fieldLayout
    cases f.reference? with
    | none => exact (List.append_nil _).symm
    | some r =>
        dsimp only
        rw [if_neg hfollows, List.append_nil]
        rfl

end Schema

end Rowsmith

/-
An array of parameters leaf by leaf.

The function that turns fields into parameters makes an array with an
entry for each column, and then calls the adapters of the fields that are
stored through one, each with a slot. The entries have the places they
have because they are listed one after the other, while the slot of a call
is a number that was counted along. So that the two go together has to be
shown: a run of the function puts the leaves of its fields into the slots
of the array in the order of their columns, whatever fields it is made for
and in whatever order they come (`arrayStores_iff`).

A column and a leaf that belong together are a cell. The cells of a field
are those of its kind; for a nested structure they are the cells of the
structure (`TableField.Cells`).
-/
import Rowsmith.Proofs.Writing.LaidOut
import Rowsmith.Proofs.Writing.Slots

namespace Rowsmith

open Emit

-- ================================================================ cells

/-- The columns of a field, each with the leaf that belongs into it. -/
def TableField.Cells (f : TableField) (cells : List Cell) : Prop :=
  match f.kind with
  | .native | .reference _ | .mapped _ => ∃ c, f.columns = [c] ∧ cells = [(c, ⟨[f.name], 0⟩)]
  | .adapted adapter => f.columns.length = adapter.columns.length ∧
    cells = f.columns.zip (adapterLeaves f.name adapter.columns.length)
  | .nested structured => ∃ outer, f.columns = structured.columns outer ∧
    cells = (structured.cells outer).map fun c => (c.1, c.2.under f.name)

/-- A field has its cells. -/
theorem TableField.Laid.exists_cells {f : TableField} (h : f.Laid) : ∃ cells, f.Cells cells := by
  unfold Laid at h
  unfold Cells
  cases hkind : f.kind with
  | native =>
      rw [hkind] at h
      obtain ⟨c, hc⟩ := h
      exact ⟨_, c, hc, rfl⟩
  | reference r =>
      rw [hkind] at h
      obtain ⟨name, hc⟩ := h
      exact ⟨_, _, hc, rfl⟩
  | mapped conversion =>
      rw [hkind] at h
      obtain ⟨name, hc⟩ := h
      exact ⟨_, _, hc, rfl⟩
  | adapted adapter =>
      rw [hkind] at h
      obtain ⟨name, hc⟩ := h
      refine ⟨_, ?_, rfl⟩
      rw [hc, adapter.length_columnsUnder]
  | nested structured =>
      rw [hkind] at h
      obtain ⟨outer, hc⟩ := h
      exact ⟨_, outer, hc, rfl⟩

/-- The cells of a field hold its columns, in order. -/
theorem TableField.Cells.columns {f : TableField} {cells : List Cell} (h : f.Cells cells) :
    cells.map (·.1) = f.columns := by
  unfold Cells at h
  cases hkind : f.kind with
  | native | reference r | mapped conversion =>
      rw [hkind] at h
      obtain ⟨c, hc, rfl⟩ := h
      exact hc.symm
  | adapted adapter =>
      rw [hkind] at h
      obtain ⟨hlength, rfl⟩ := h
      apply List.map_fst_zip
      rw [length_adapterLeaves]
      exact Nat.le_of_eq hlength
  | nested structured =>
      rw [hkind] at h
      obtain ⟨outer, hc, rfl⟩ := h
      rw [hc, List.map_map]
      exact (map_cellsOfAll outer structured.parts).1

/-- The cells of several fields hold their columns, in order. -/
theorem columns_of_cells {fields : List TableField} {each : List (List Cell)}
    (h : List.Forall₂ TableField.Cells fields each) :
    each.flatten.map (·.1) = fields.flatMap (·.columns) := by
  induction h with
  | nil => rfl
  | cons hcells _ ih => rw [List.flatten_cons, List.map_append, hcells.columns, ih, List.flatMap_cons]

-- =============================================================== writing

namespace Emit

/-- The slots into which the leaves of a field go when its entries in the
array begin at a slot. -/
inductive FieldWrite.Stores (s : Schema) (existing : ExistingAdapters) (slot : Nat) :
    FieldWrite → List (Leaf × Nat) → Prop
  -- A value is an entry of the array.
  | stored {field : String} : Stores s existing slot (.stored field) [(⟨[field], 0⟩, slot)]
  -- So is a converted value.
  | converted {field : String} {conversion : Conversion} {optional : Bool} :
      Stores s existing slot (.converted field conversion optional) [(⟨[field], 0⟩, slot)]
  -- An existing adapter is called with the slot that was counted for it.
  | existing {field path : String} {optional : Bool} {start count : Nat} :
      Stores s existing slot (.filled field (.provided path) optional start count)
        ((existing path start).zipIdx.map fun w => (⟨[field], w.2⟩, w.1))
  -- So is the adapter of a structure.
  | generated {field : String} {optional : Bool} {start count : Nat} {structured : Structure}
      {inner : List (Leaf × Nat)} (listed : structured ∈ s.structures)
      (call : Emit.Stores s existing (partWrites 0 structured.parts) start inner) :
      Stores s existing slot (.filled field (.generated structured.type) optional start count)
        (inner.map fun w => (w.1.under field, w.2))

/-- The slots into which the leaves of fields go. The entries of a field
come after those of the fields before it. -/
inductive ArrayStores (s : Schema) (existing : ExistingAdapters) :
    Nat → List FieldWrite → List (Leaf × Nat) → Prop
  | nil {slot : Nat} : ArrayStores s existing slot [] []
  | cons {slot : Nat} {write : FieldWrite} {rest : List FieldWrite}
      {own stores : List (Leaf × Nat)} (first : write.Stores s existing slot own)
      (next : ArrayStores s existing (slot + write.initial.length) rest stores) :
      ArrayStores s existing slot (write :: rest) (own ++ stores)

variable {s : Schema} {existing : ExistingAdapters} {f : TableField} {fields : List TableField}

/-- All that is needed to write a field is known: its columns are those of
its kind, the structure it may nest is listed, and the adapter it may be
stored through is in use. -/
structure Writable (s : Schema) (f : TableField) : Prop where
  laid : f.Laid
  listed : ∀ structured, f.kind = .nested structured → structured ∈ s.structures
  uses : ∀ adapter, f.kind = .adapted adapter → s.Uses adapter

/-- A field whose entries begin at the slot that was counted for it is
written leaf after leaf, in the order of its columns. -/
theorem fieldStores_iff (hlibrary : Library s.structures)
    (hexisting : ∀ a, s.Uses a → existing.InOrder a) (hf : Writable s f) {cells : List Cell}
    (hcells : f.Cells cells) (slot : Nat) (stores : List (Leaf × Nat)) :
    (fieldWrite slot f).Stores s existing slot stores ↔
      stores = (cells.map (·.2)).zipIdx slot := by
  unfold fieldWrite
  unfold TableField.Cells at hcells
  cases hkind : f.kind with
  | native | reference r =>
      rw [hkind] at hcells
      obtain ⟨c, -, rfl⟩ := hcells
      constructor
      · intro h
        cases h
        rfl
      · rintro rfl
        exact .stored
  | mapped conversion =>
      rw [hkind] at hcells
      obtain ⟨c, -, rfl⟩ := hcells
      constructor
      · intro h
        cases h
        rfl
      · rintro rfl
        exact .converted
  | adapted adapter =>
      rw [hkind] at hcells
      obtain ⟨hlength, rfl⟩ := hcells
      have horder := hexisting adapter (hf.uses adapter hkind) slot
      have hleaves : (f.columns.zip (adapterLeaves f.name adapter.columns.length)).map (·.2) =
          adapterLeaves f.name adapter.columns.length := by
        apply List.map_snd_zip
        rw [length_adapterLeaves]
        exact Nat.le_of_eq hlength.symm
      rw [hleaves, zipIdx_adapterLeaves, ← horder]
      constructor
      · intro h
        cases h
        rfl
      · rintro rfl
        exact .existing
  | nested structured =>
      rw [hkind] at hcells
      obtain ⟨outer, -, rfl⟩ := hcells
      have hlisted := hf.listed structured hkind
      have hstored := (laidOut_of_library hlibrary hexisting hlisted).stored slot
      have hleaves : ((structured.cells outer).map fun c => (c.1, c.2.under f.name)).map (·.2) =
          structured.leaves.map (·.under f.name) := by
        have hcells : (structured.cells outer).map (·.2) = structured.leaves :=
          (map_cellsOfAll outer structured.parts).2
        rw [List.map_map, ← hcells, List.map_map]
        rfl
      rw [hleaves, List.zipIdx_map]
      show FieldWrite.Stores s existing slot (.filled f.name (.generated structured.type) f.isOptional
        slot f.columnCount) stores ↔ _
      constructor
      · intro h
        generalize htype : structured.type = type at h
        cases h with
        | @generated field optional start count structured' inner listed call =>
            -- the type of the field stands for one structure
            obtain rfl := hlibrary.eq_of_type listed hlisted htype.symm
            rw [(hstored inner).1 call]
            rfl
      · rintro rfl
        exact .generated hlisted ((hstored _).2 rfl)

/-- An array for fields is made leaf after leaf, in the order of their
columns. -/
theorem arrayStores_iff (hlibrary : Library s.structures)
    (hexisting : ∀ a, s.Uses a → existing.InOrder a) (hfields : ∀ f ∈ fields, Writable s f)
    {each : List (List Cell)} (heach : List.Forall₂ TableField.Cells fields each) (slot : Nat)
    (stores : List (Leaf × Nat)) :
    ArrayStores s existing slot (fieldWrites slot fields) stores ↔
      stores = (each.flatten.map (·.2)).zipIdx slot := by
  induction heach generalizing slot stores with
  | nil =>
      constructor
      · intro h
        cases h
        rfl
      · rintro rfl
        exact .nil
  | @cons f cells fields each hcells heach ih =>
      obtain ⟨hf, hfields⟩ := List.forall_mem_cons.1 hfields
      have hfirst := fieldStores_iff hlibrary hexisting hf hcells slot
      have hnext := ih hfields (slot + f.columnCount)
      have hentries := length_initial hf.laid slot
      have hcount : f.columnCount = (cells.map (·.2)).length := by
        unfold TableField.columnCount
        rw [← hcells.columns, List.length_map, List.length_map]
      rw [List.flatten_cons, List.map_append, List.zipIdx_append, ← hcount]
      show ArrayStores s existing slot (fieldWrite slot f :: fieldWrites (slot + f.columnCount) fields)
        stores ↔ _
      constructor
      · intro h
        cases h with
        | cons first next =>
            rw [hentries] at next
            rw [(hfirst _).1 first, (hnext _).1 next]
      · rintro rfl
        refine .cons ((hfirst _).2 rfl) ?_
        rw [hentries]
        exact (hnext _).2 rfl

end Emit

end Rowsmith

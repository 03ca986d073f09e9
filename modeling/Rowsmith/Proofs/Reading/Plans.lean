/-
The plans by which rows are read, field by field. How a field is read is
told by how it is stored: it has a getter for each of its columns, and a
reference has an arm for each policy. So there is a plan for every table
of a schema in which fields are laid out as they are stored.
-/
import Rowsmith.Proofs.Attempt
import Rowsmith.Proofs.Reading.Program
import Rowsmith.Proofs.Schema.Parts
import Rowsmith.Proofs.Schema.WellFormed

namespace Rowsmith.Emit

variable {s : Schema} {id : TableId} {t : Table}

-- =============================================================== fields

/-- How a field is read fits how it is stored: by one getter for each of
its columns, which reads what the column stores. -/
theorem fieldRead_ok (s : Schema) (id : TableId) {f : TableField} (hf : f.Laid) :
    ∃ read, fieldRead s id f = .ok read ∧
      f.columns.map (·.storage) = read.getters.map (·.storage) := by
  unfold fieldRead
  unfold TableField.Laid at hf
  cases hkind : f.kind with
  | native =>
      rw [hkind] at hf
      obtain ⟨c, hcolumns⟩ := hf
      rw [TableField.column_eq_ok.2 hcolumns, hcolumns]
      exact ⟨_, rfl, rfl⟩
  | mapped conversion =>
      rw [hkind] at hf
      obtain ⟨name, hcolumns⟩ := hf
      rw [TableField.column_eq_ok.2 hcolumns, hcolumns]
      exact ⟨_, rfl, rfl⟩
  | adapted adapter =>
      rw [hkind] at hf
      obtain ⟨name, hcolumns⟩ := hf
      -- the getters come from the declared columns, the columns are named after
      -- the field: both keep the storages
      refine ⟨_, rfl, ?_⟩
      rw [hcolumns, adapter.storages_columnsUnder]
      show _ = List.map _ (((providedParams adapter).map Param.getter))
      rw [List.map_map]
      unfold providedParams
      rw [List.map_map]
      rfl
  | nested structured =>
      rw [hkind] at hf
      obtain ⟨name, hcolumns⟩ := hf
      refine ⟨_, rfl, ?_⟩
      rw [hcolumns, structured.columns_eq, List.map_map]
      show _ = List.map _ ((structureParams structured).map Param.getter)
      rw [List.map_map]
      rfl
  | reference r =>
      rw [hkind] at hf
      obtain ⟨name, hcolumns⟩ := hf
      rw [hcolumns]
      exact ⟨_, rfl, rfl⟩

/-- A value that is assembled may be absent when its field is optional. -/
theorem fieldRead_optional {id : TableId} {f : TableField} {adapter : AdapterName}
    {getters : List Getter} {optional : Bool}
    (h : fieldRead s id f = .ok (.assembled adapter getters optional)) :
    optional = f.isOptional := by
  unfold fieldRead at h
  cases hkind : f.kind with
  | native =>
      rw [hkind] at h
      obtain ⟨c, -, h⟩ := Attempt.bind_eq_ok.1 h
      cases h
  | mapped conversion =>
      rw [hkind] at h
      obtain ⟨c, -, h⟩ := Attempt.bind_eq_ok.1 h
      cases h
  | adapted adapter => rw [hkind] at h; cases h; rfl
  | nested structured => rw [hkind] at h; cases h; rfl
  | reference r => rw [hkind] at h; cases h

theorem fieldRead_reference {f : TableField} {read : FieldRead}
    (h : fieldRead s id f = .ok read) :
    read.reference? = f.reference?.map fun r => {
      target := r
      nullable := f.nullable
      optional := f.isOptional
      arms := FollowPolicy.policies.map (referenceArm s id f r) } := by
  unfold fieldRead at h
  unfold TableField.reference?
  cases hkind : f.kind with
  | native =>
      rw [hkind] at h
      obtain ⟨c, -, h⟩ := Attempt.bind_eq_ok.1 h
      obtain rfl := Attempt.pure_eq_ok.1 h
      rfl
  | mapped conversion =>
      rw [hkind] at h
      obtain ⟨c, -, h⟩ := Attempt.bind_eq_ok.1 h
      obtain rfl := Attempt.pure_eq_ok.1 h
      rfl
  | adapted adapter =>
      rw [hkind] at h
      obtain rfl := Except.ok.inj h
      rfl
  | nested structured =>
      rw [hkind] at h
      obtain rfl := Except.ok.inj h
      rfl
  | reference r =>
      rw [hkind] at h
      obtain rfl := Except.ok.inj h
      rfl

/-- Where a value is absent, as many columns are skipped as its getters would
read. -/
theorem FieldRead.skip_eq {row : Row} {read : FieldRead} {start : Nat} (hplain : read.reference? = none)
    (habsent : read.isAbsent row start = true) : read.skip = read.getters.length := by
  cases read with
  | column getter => cases habsent
  | converted getter conversion => cases habsent
  | assembled adapter getters optional => rfl
  | reference read => cases hplain

theorem arm?_eq {id : TableId} {f : TableField} {r : Reference} {read : ReferenceRead}
    (h : read.arms = FollowPolicy.policies.map (referenceArm s id f r)) (policy : FollowPolicy) :
    read.arm? policy = some (referenceArm s id f r policy) := by
  unfold ReferenceRead.arm?
  rw [h]
  cases policy with
  | keys => rfl
  | oneLevel => rfl
  | all => rfl

/-- Some policy follows a reference. -/
theorem fieldRead_follows {f : TableField} {read : ReferenceRead}
    (h : fieldRead s id f = .ok (.reference read)) :
    ∃ arm ∈ read.arms, arm.entity.isSome = true := by
  have hreference := fieldRead_reference h
  change some read = _ at hreference
  obtain ⟨r, -, rfl⟩ := Option.map_eq_some_iff.1 hreference.symm
  have hfollows : (s.effective id .oneLevel).follows = true := rfl
  refine ⟨referenceArm s id f r .oneLevel, List.mem_map_of_mem (by decide), ?_⟩
  unfold referenceArm
  dsimp only
  rw [if_pos hfollows]
  rfl

-- ================================================================ plans

/-- Fields of a table with their readings. -/
def PlanOf (s : Schema) (t : Table) (fields : List TableField) (plan : List FieldRead) : Prop :=
  (∀ f ∈ fields, f ∈ t.fields) ∧
    List.Forall₂ (fun f read => fieldRead s t.id f = .ok read) fields plan

theorem planOf_of_readPlan {plan : List FieldRead} (h : readPlan s t = .ok plan) :
    PlanOf s t t.fields plan :=
  ⟨fun _ hf => hf, Attempt.mapM_eq_ok_iff.1 h⟩

theorem readPlan_succeeds (h : s.WellFormed) (ht : t ∈ s.tables) :
    ∃ plan, readPlan s t = .ok plan :=
  Attempt.mapM_succeeds fun f hf => by
    obtain ⟨read, hread, -⟩ := fieldRead_ok s t.id (h.laid t ht f hf)
    exact ⟨read, hread⟩

end Rowsmith.Emit

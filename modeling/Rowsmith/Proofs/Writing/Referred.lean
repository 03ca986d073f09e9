/-
The types that a unit refers to, in the order in which it first does, and the
items of the runtime that it takes. Both are read off what the unit is written
for. The unit of a table refers to
the model, to the enumerations among the types of its fields, to adapters
that several fields may share, and to the accessors of the tables that it
follows references to. The unit of a structure refers to its type, to
enumerations and to adapters.

There is one lemma for each step in writing a unit, in the order in which the
steps are put together. A reference is read under each policy, and one policy
at least follows it; so the accessor it leads to is always referred to.

# Main results

What the functions of an accessor and of an adapter take and refer to
(`tableFunctions_brings`, `createInstanceFunction_brings`,
`fillValuesFunction_brings`).
-/
import Rowsmith.Proofs.Writing.Emission
import Rowsmith.Proofs.Writing.Scope

namespace Rowsmith.Emit

open Text
open Writer (Brings)

-- ============================================================ expressions

/-- The paths that the code of a conversion refers to. -/
def convertedTypes (m : Conversion) : List String := (m.namedType?.map cratePath).toList

/-- The paths that a call of an adapter refers to. One of a single segment is
in scope anyway. -/
def AdapterName.referred (target : Target) : AdapterName → List String
  | .provided path => if (TypeExpr.cutLast path.toList).isSome then [path] else []
  | .generated type => [(Location.ofAdapter type).fullPath target]

/-- The paths that a call of an accessor refers to, in the unit of a table. -/
def accessorReferred (s : Schema) (target : Target) (id : TableId) (r : Reference) : List String :=
  if r.table = id then []
  else (s.tables[r.table]?).toList.map fun t => (Location.ofTable t).fullPath target

variable {s : Schema} {target : Target} {id : TableId}

theorem adapterName_brings (adapter : AdapterName) :
    Brings (adapterName target adapter) [] (adapter.referred target) := by
  cases adapter with
  | provided path =>
      unfold adapterName AdapterName.referred
      dsimp only
      split
      · exact .path path
      · exact .pure path
  | generated type => exact .path _

theorem convertedCode_brings (m : Conversion) (stored : String) (optional : Bool) :
    Brings (convertedCode m stored optional) [] (convertedTypes m) := by
  unfold convertedCode convertedTypes
  dsimp only
  cases m.namedType? with
  | some type => exact .bind (.path _) fun _ => .bind (.pure _) fun _ => .pure _
  | none => exact .bind (.pure _) fun _ => .pure _

theorem accessorName_brings (r : Reference) :
    Brings (accessorName s target id r) [] (accessorReferred s target id r) := by
  unfold accessorName accessorReferred
  split
  · exact .pure "Self"
  · refine .bind_lift fun t ht => ?_
    rw [Schema.table_eq_ok.1 ht]
    exact .path _

-- ================================================================ reading

/-- The items that are taken for a reference under one policy. -/
def ReferenceArm.taken (shape : ReferenceShape) (arm : ReferenceArm) : List RuntimeItem :=
  factoryItem shape :: arm.entity.toList.map fun _ => .readFollow

/-- The paths that are referred to for a reference under one policy. -/
def ReferenceArm.referred (s : Schema) (target : Target) (id : TableId) (r : Reference)
    (arm : ReferenceArm) : List String :=
  arm.entity.toList.flatMap fun _ => accessorReferred s target id r

/-- The items that are taken for a field when it is read. -/
def FieldRead.taken : FieldRead → List RuntimeItem
  | .reference read => .readFollow :: read.arms.flatMap (·.taken read.target.shape)
  | _ => []

/-- The paths that are referred to for a field when it is read. -/
def FieldRead.referred (s : Schema) (target : Target) (id : TableId) : FieldRead → List String
  | .column _ => []
  | .converted _ conversion => convertedTypes conversion
  | .assembled adapter _ _ => adapter.referred target
  | .reference read => read.arms.flatMap (·.referred s target id read.target)

theorem presentCode_brings (read : ReferenceRead) (arm : ReferenceArm) (key : String) :
    Brings (presentCode s target id read arm key) (arm.entity.toList.map fun _ => .readFollow)
      (arm.referred s target id read.target) := by
  unfold presentCode ReferenceArm.referred
  dsimp only
  cases arm.entity with
  | some policy =>
      refine (Brings.bind (accessorName_brings read.target) fun accessor =>
        .bind (.item .readFollow) fun _ => .bind (.pure _) fun _ => .pure _).congr ?_ ?_
      · simp
      · simp
  | none => exact .bind (.pure _) fun _ => .pure _

theorem armCode_brings (read : ReferenceRead) (arm : ReferenceArm) :
    Brings (armCode s target id read arm) (arm.taken read.target.shape)
      (arm.referred s target id read.target) := by
  have hpresent := @presentCode_brings s target id read arm
  refine Brings.bind (.item (factoryItem read.target.shape)) fun _ => ?_
  dsimp only
  split
  · refine .bind_lift fun absent _ => .before (hpresent "id") fun present => ?_
    exact .bind (.lift _) fun _ => .bind (.lift _) fun _ => .lift _
  · split
    · exact .before (hpresent "id") fun present => .lift _
    · exact .before (hpresent _) fun present => .lift _

theorem readCode_brings (read : FieldRead) :
    Brings (readCode s target id read) read.taken (read.referred s target id) := by
  cases read with
  | column getter => exact .lift _
  | converted getter conversion =>
      exact .before (convertedCode_brings conversion _ _) fun code => .lift _
  | assembled adapter getters optional =>
      exact .before (adapterName_brings adapter) fun name => .lift _
  | reference read =>
      refine .bind (.item .readFollow) fun policyType => .before (.foldlM (fun arm _ arms => ?_) _)
        fun arms => .lift _
      refine .before (armCode_brings read arm) fun code => ?_
      exact .bind (.lift _) fun _ => .pure _

/-- The items that are taken for a field when it is read. -/
def readTaken (f : TableField) : List RuntimeItem :=
  f.reference?.toList.flatMap fun r => [.readFollow, factoryItem r.shape]

/-- The paths that are referred to for a field of the table at `id`. -/
def fieldReferred (s : Schema) (target : Target) (id : TableId) (f : TableField) : List String :=
  match f.kind with
  | .native => []
  | .mapped conversion => convertedTypes conversion
  | .adapted adapter => (AdapterName.provided adapter.path).referred target
  | .nested x => (AdapterName.generated x.type).referred target
  | .reference r => accessorReferred s target id r

/-- How a field is read tells what is taken and referred to for it. Of the
policies for a reference there is one that follows it. -/
theorem fieldRead_brings {f : TableField} {read : FieldRead} (h : fieldRead s id f = .ok read) :
    (∀ item, item ∈ read.taken ↔ item ∈ readTaken f) ∧
      ∀ name, firstEnding (read.referred s target id) name =
        firstEnding (fieldReferred s target id f) name := by
  have hof := fieldRead_of h
  unfold fieldReferred readTaken TableField.reference?
  cases hkind : f.kind with
  | native =>
      rw [hkind] at hof
      obtain ⟨getter, rfl⟩ := hof
      exact ⟨fun _ => Iff.rfl, fun _ => rfl⟩
  | mapped conversion =>
      rw [hkind] at hof
      obtain ⟨getter, rfl⟩ := hof
      exact ⟨fun _ => Iff.rfl, fun _ => rfl⟩
  | adapted adapter =>
      rw [hkind] at hof
      obtain ⟨getters, optional, rfl⟩ := hof
      exact ⟨fun _ => Iff.rfl, fun _ => rfl⟩
  | nested x =>
      rw [hkind] at hof
      obtain ⟨getters, optional, rfl⟩ := hof
      exact ⟨fun _ => Iff.rfl, fun _ => rfl⟩
  | reference r =>
      unfold fieldRead at h
      rw [hkind] at h
      obtain rfl := Except.ok.inj h
      -- under this policy the referenced table is read
      have harm : referenceArm s id f r .oneLevel ∈
          FollowPolicy.policies.map (referenceArm s id f r) := List.mem_map_of_mem (by decide)
      have hreferred : ∀ arm : ReferenceArm,
          arm.referred s target id r ⊆ accessorReferred s target id r := by
        intro arm path hpath
        obtain ⟨policy, -, hpath⟩ := List.mem_flatMap.1 hpath
        exact hpath
      constructor
      · intro item
        show item ∈ .readFollow :: List.flatMap _ _ ↔ item ∈ [.readFollow, factoryItem r.shape]
        rw [List.mem_cons, List.mem_cons, List.mem_singleton, List.mem_flatMap]
        constructor
        · rintro (h | ⟨arm, -, htaken⟩)
          · exact Or.inl h
          · refine (List.mem_cons.1 htaken).symm.imp_left fun hpolicy => ?_
            obtain ⟨policy, -, rfl⟩ := List.mem_map.1 hpolicy
            rfl
        · rintro (h | rfl)
          · exact Or.inl h
          · exact Or.inr ⟨_, harm, List.mem_cons_self⟩
      · intro name
        have hfollowed : (referenceArm s id f r .oneLevel).referred s target id r =
            accessorReferred s target id r := List.append_nil _
        show firstEnding ((referenceArm s id f r .oneLevel).referred s target id r ++
          ((referenceArm s id f r .all).referred s target id r ++ [])) name = _
        rw [hfollowed, List.append_nil]
        exact firstEnding_append_of_subset (hreferred _) name

theorem fromRowFunction_brings (t : Table) (model : String) :
    Brings (fromRowFunction s target t model)
      ([.row, .readFollow, .rowError] ++ t.fields.flatMap readTaken)
      (t.fields.flatMap (fieldReferred s target t.id)) := by
  refine .bind (.item .row) fun row => .bind (.item .readFollow) fun policyType =>
    .bind (.item .rowError) fun rowError => .before (.foldlM (fun f _ fields => ?_) _) fun fields => ?_
  · refine .bind_lift fun read hread => ?_
    obtain ⟨htaken, hreferred⟩ := fieldRead_brings hread
    refine .congr (.before (readCode_brings read) fun code => ?_) htaken hreferred
    exact .bind (.lift _) fun _ => .pure _
  · exact .bind (.lift _) fun _ => .bind (.lift _) fun _ => .lift _

-- ================================================================ writing

/-- The items that are taken for a field when it is written. -/
def FieldWrite.taken : FieldWrite → List RuntimeItem
  | .filled _ _ _ _ _ => []
  | _ => [.toValue]

/-- The paths that are referred to for a field when it is written. -/
def FieldWrite.referred (target : Target) : FieldWrite → List String
  | .filled _ adapter _ _ _ => adapter.referred target
  | _ => []

theorem WriteCode.add_brings (code : WriteCode) (write : FieldWrite) :
    Brings (WriteCode.add target code write) write.taken (write.referred target) := by
  cases write with
  | stored field => exact .bind (.item .toValue) fun _ => .bind (.lift _) fun _ => .pure _
  | converted field conversion optional =>
      exact .bind (.item .toValue) fun _ => .bind (.lift _) fun _ => .pure _
  | filled field adapter optional start count =>
      refine .before (adapterName_brings adapter) fun name => ?_
      exact .bind (.lift _) fun _ => .bind (.lift _) fun _ => .pure _

/-- What is said of the plan of a field wherever it starts is said of the
fields. -/
theorem flatMap_fieldWrites {α : Type} {g : FieldWrite → List α} {g' : TableField → List α}
    (h : ∀ start f, g (fieldWrite start f) = g' f) (start : Nat) (fields : List TableField) :
    (fieldWrites start fields).flatMap g = fields.flatMap g' := by
  induction fields generalizing start with
  | nil => rfl
  | cons f fields ih =>
      unfold fieldWrites
      rw [List.flatMap_cons, List.flatMap_cons, h, ih]

/-- The items that are taken for a field when it is written in its place. -/
def writeTaken (f : TableField) : List RuntimeItem := (fieldWrite 0 f).taken

theorem taken_fieldWrite (start : Nat) (f : TableField) :
    (fieldWrite start f).taken = writeTaken f := by
  unfold writeTaken fieldWrite
  cases f.kind <;> rfl

/-- The adapters that a field is written through. -/
def writeReferred (target : Target) (f : TableField) : List String :=
  (fieldWrite 0 f).referred target

theorem referred_fieldWrite (start : Nat) (f : TableField) :
    (fieldWrite start f).referred target = writeReferred target f := by
  unfold writeReferred fieldWrite
  cases f.kind <;> rfl

theorem writeReferred_subset (f : TableField) :
    writeReferred target f ⊆ fieldReferred s target id f := by
  unfold writeReferred fieldWrite fieldReferred
  cases f.kind with
  | adapted adapter => exact List.Subset.refl _
  | nested x => exact List.Subset.refl _
  | _ => exact List.nil_subset _

theorem valuesFunction_brings (name model : String) (fields : List TableField) :
    Brings (valuesFunction target name model fields)
      (.value :: fields.flatMap writeTaken) (fields.flatMap (writeReferred target)) := by
  rw [← flatMap_fieldWrites taken_fieldWrite 0, ← flatMap_fieldWrites referred_fieldWrite 0]
  refine .bind (.item .value) fun value => .before (.foldlM (fun write _ code => ?_) _) fun code => ?_
  · exact WriteCode.add_brings code write
  · dsimp only
    split
    · exact .bind (.lift _) fun _ => .lift _
    · exact .bind (.lift _) fun _ => .bind (.lift _) fun _ => .lift _

-- ================================================================= tables

/-- The items of the runtime that the unit of a table takes. -/
def tableTaken (t : Table) : List RuntimeItem :=
  [.readFollow, .flavor, .value, .row, .rowError] ++ t.fields.flatMap writeTaken ++
    t.fields.flatMap readTaken

/-- The paths of the types that the unit of a table refers to. -/
def tableReferred (s : Schema) (target : Target) (t : Table) : List String :=
  cratePath t.model :: t.fields.flatMap (fieldReferred s target t.id)

theorem policyFunction_brings (name result : String) (arm : FollowPolicy → String) :
    Brings (policyFunction name result arm) [.readFollow] [] :=
  .bind (.item _) fun _ => .bind (.lift _) fun _ => .bind (.lift _) fun _ => .lift _

theorem createTableFunction_brings (s : Schema) (t : Table) :
    Brings (createTableFunction s t) [.flavor] [] := by
  refine .before (.item .flavor) fun flavorType => ?_
  refine .before (.foldlM_none (fun flavor _ arms => ?_) _) fun arms => ?_
  · exact .bind (.lift _) fun _ => .lift _
  · exact .bind (.lift _) fun _ => .lift _

/-- What is brought in for some of the fields is brought in for all. -/
theorem flatMap_subset {α : Type} {fields fields' : List TableField} (h : fields ⊆ fields')
    (g : TableField → List α) : fields.flatMap g ⊆ fields'.flatMap g := by
  intro a ha
  obtain ⟨f, hf, ha⟩ := List.mem_flatMap.1 ha
  exact List.mem_flatMap.2 ⟨f, h hf, ha⟩

/-- The paths that the functions of an accessor refer to: what the fields are
written through, and then what they are read through. -/
def functionsReferred (s : Schema) (target : Target) (t : Table) : List String :=
  t.fields.flatMap (writeReferred target) ++ t.fields.flatMap (fieldReferred s target t.id)

/-- The functions that need the fields of a table take what is taken for the
fields, and refer to what is referred to for them. An update takes and refers
to nothing more than the function that writes all fields. -/
theorem rowFunctions_brings (t : Table) (model : String) {update : Writer (Option Lines)}
    {items : List RuntimeItem} {paths : List String} (hupdate : Brings update items paths)
    (hitems : items ⊆ .value :: t.fields.flatMap writeTaken)
    (hpaths : paths ⊆ t.fields.flatMap (writeReferred target))
    (functions : Lines → Lines → Option Lines → Lines → List Lines) :
    Brings (do
        let create ← createTableFunction s t
        let values ← valuesFunction target "values" model t.fields
        let update? ← update
        let fromRow ← fromRowFunction s target t model
        return functions create values update? fromRow)
      (tableTaken t) (functionsReferred s target t) := by
  refine .congr (.bind (createTableFunction_brings s t) fun create =>
    .bind (valuesFunction_brings _ _ _) fun values => .bind hupdate fun update? =>
      .before (fromRowFunction_brings t model) fun fromRow => .pure _)
    (fun item => ?_) fun name => ?_
  · have hitem := @hitems item
    simp only [tableTaken, List.mem_append, List.mem_cons, List.not_mem_nil] at hitem ⊢
    tauto
  · unfold functionsReferred
    rw [List.nil_append, ← List.append_assoc, firstEnding_append,
      firstEnding_append_of_subset hpaths, ← firstEnding_append]

/-- The functions of an accessor take what is taken for the fields, and refer
to what is referred to for them. -/
theorem tableFunctions_brings (t : Table) (model : String) :
    Brings (tableFunctions s target t model) (tableTaken t) (functionsReferred s target t) := by
  have hpolicy : [RuntimeItem.readFollow] ⊆ tableTaken t := by
    intro item hitem
    rw [List.mem_singleton.1 hitem]
    exact List.mem_append_left _ (List.mem_append_left _ List.mem_cons_self)
  refine .absorb (policyFunction_brings _ _ _) hpolicy fun select => ?_
  -- whether there is a key or not, what follows is the same
  dsimp only
  split
  case' isTrue => refine .absorb (.map (policyFunction_brings _ _ _) _) hpolicy fun byKey? => ?_
  case' isFalse => refine .absorb (.pure none) (List.nil_subset _) fun byKey? => ?_
  all_goals
    refine .absorb (policyFunction_brings _ _ _) hpolicy fun columnCount => ?_
    cases hfields : updateFields? t with
    | none => exact rowFunctions_brings t model (.pure none) (List.nil_subset _) (List.nil_subset _) _
    | some fields =>
        have hsubset := updateFields?_subset hfields
        exact rowFunctions_brings t model (.map (valuesFunction_brings _ _ fields) _)
          (List.cons_subset_cons _ (flatMap_subset hsubset _)) (flatMap_subset hsubset _) _

/-- The paths that the unit of a table refers to, those first that it refers
to first. -/
def tablePaths (s : Schema) (target : Target) (t : Table) : List String :=
  cratePath t.model :: functionsReferred s target t

/-- What the fields are written through they are read through as well. -/
theorem mem_tablePaths {t : Table} {path : String} :
    path ∈ tablePaths s target t ↔ path ∈ tableReferred s target t := by
  have hwritten : path ∈ t.fields.flatMap (writeReferred target) →
      path ∈ t.fields.flatMap (fieldReferred s target t.id) := by
    intro hmem
    obtain ⟨f, hf, hmem⟩ := List.mem_flatMap.1 hmem
    exact List.mem_flatMap.2 ⟨f, hf, writeReferred_subset f hmem⟩
  unfold tablePaths tableReferred functionsReferred
  rw [List.mem_cons, List.mem_cons, List.mem_append, or_iff_right_of_imp hwritten]

-- ============================================================= structures

/-- The items that are taken for a part when it is written in its place. -/
def partTaken : Part → List RuntimeItem
  | .native _ _ => [.toValue]
  | .mapped _ _ => [.toValue]
  | .adapted _ _ => []
  | .nested _ _ _ => []

/-- The paths that are referred to for a part. -/
def partReferred (target : Target) : Part → List String
  | .native _ _ => []
  | .mapped _ conversion => convertedTypes conversion
  | .adapted _ adapter => (AdapterName.provided adapter.path).referred target
  | .nested _ type _ => (AdapterName.generated type).referred target

/-- The items of the runtime that the unit of a structure takes. -/
def structureTaken (x : Structure) : List RuntimeItem := .value :: x.parts.flatMap partTaken

/-- The paths of the types that the unit of a structure refers to. -/
def structureReferred (target : Target) (x : Structure) : List String :=
  cratePath x.type :: x.parts.flatMap (partReferred target)

/-- The paths that are referred to when a part is put together. -/
def PartBuild.referred (target : Target) : PartBuild → List String
  | .given _ => []
  | .converted _ conversion _ => convertedTypes conversion
  | .assembled adapter _ => adapter.referred target

theorem buildCode_brings (build : PartBuild) :
    Brings (buildCode target build) [] (build.referred target) := by
  cases build with
  | given param => exact .pure _
  | converted param conversion optional => exact convertedCode_brings conversion _ _
  | assembled adapter params => exact .before (adapterName_brings adapter) fun name => .pure _

theorem flatMap_partBuilds (params : List Param) (parts : List Part) :
    (partBuilds params parts).flatMap (fun entry => entry.2.referred target) =
      parts.flatMap (partReferred target) := by
  induction parts generalizing params with
  | nil => rfl
  | cons part parts ih =>
      have hpart : ∀ own, (partBuild own part).referred target = partReferred target part := by
        intro own
        cases part <;> rfl
      unfold partBuilds
      rw [List.flatMap_cons, List.flatMap_cons, hpart, ih]

theorem createInstanceFunction_brings (x : Structure) (type : String) :
    Brings (createInstanceFunction target x type) [] (x.parts.flatMap (partReferred target)) := by
  rw [← flatMap_partBuilds (structureParams x)]
  refine .before (.foldlM_paths (fun entry _ fields => ?_) _) fun fields => ?_
  · exact .before (buildCode_brings entry.2) fun value => .lift _
  · exact .bind (.lift _) fun _ => .bind (.lift _) fun _ => .lift _

/-- The items that are taken when a part is written. -/
def PartWrite.taken : PartWrite → List RuntimeItem
  | .filled _ _ => []
  | _ => [.toValue]

/-- The paths that are referred to when a part is written. -/
def PartWrite.referred (target : Target) : PartWrite → List String
  | .filled _ adapter => adapter.referred target
  | _ => []

theorem writeCode_brings (head : PartHead) (write : PartWrite) :
    Brings (writeCode target head write) write.taken (write.referred target) := by
  cases write with
  | stored slot => exact .before (.item .toValue) fun _ => .lift _
  | converted slot conversion optional => exact .before (.item .toValue) fun _ => .lift _
  | filled slot adapter => exact .before (adapterName_brings adapter) fun name => .lift _

theorem flatMap_partWrites (start : Nat) (parts : List Part) :
    (partWrites start parts).flatMap (fun entry => entry.2.taken) = parts.flatMap partTaken ∧
      (partWrites start parts).flatMap (fun entry => entry.2.referred target) ⊆
        parts.flatMap (partReferred target) := by
  induction parts generalizing start with
  | nil => exact ⟨rfl, List.Subset.refl _⟩
  | cons part parts ih =>
      obtain ⟨htaken, hreferred⟩ := ih (start + part.columnCount)
      have hpart : (partWrite start part).referred target ⊆ partReferred target part := by
        cases part with
        | native head storage => exact List.nil_subset _
        | mapped head conversion => exact List.nil_subset _
        | adapted head adapter => exact List.Subset.refl _
        | nested head type parts => exact List.Subset.refl _
      unfold partWrites
      rw [List.flatMap_cons, List.flatMap_cons, List.flatMap_cons, List.flatMap_cons, htaken]
      refine ⟨?_, ?_⟩
      · cases part <;> rfl
      · exact List.append_subset.2 ⟨List.subset_append_of_subset_left _ hpart,
          List.subset_append_of_subset_right _ hreferred⟩

/-- The functions of an adapter take what is taken for the parts, and refer to
what is referred to for them. -/
theorem fillValuesFunction_brings (x : Structure) (type : String) : ∃ paths,
    paths ⊆ x.parts.flatMap (partReferred target) ∧
      Brings (fillValuesFunction target x type) (structureTaken x) paths := by
  obtain ⟨htaken, hreferred⟩ := @flatMap_partWrites target 0 x.parts
  refine ⟨_, hreferred, ?_⟩
  unfold structureTaken
  rw [← htaken]
  refine .bind (.item .value) fun value => .before (.foldlM (fun entry _ body => ?_) _) fun body => ?_
  · exact .before (writeCode_brings entry.1 entry.2) fun _ => .pure _
  · exact .lift _

theorem newValuesFunction_brings (type : String) (count : Nat) :
    Brings (newValuesFunction type count) [.value] [] :=
  .bind (.item .value) fun _ => .bind (.lift _) fun _ => .lift _

end Rowsmith.Emit

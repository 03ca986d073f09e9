/-
Reading in step with selecting: the function that reads a row calls its
getters on exactly the columns that are selected for it.

The select statement and the reading functions are made by two recursions
over the schema. Both are compared with the layout of a row: the columns
selected are stored as it says, and a reading covers it (`Covers`): the
getters that are called read columns of the layout, each at its place,
all of them if every value is present, and the reading stops behind it on
every path. The cases of the induction over a reading (`Reads.covers`)
each put together what is covered before and after. That the functions do
what is said of a reading is in their text, which has the getters, the
skipping and the calls of a plan in it, in order (`SourceFile.ReadsBy`).

Main result: `reading_in_step`.
-/
import Rowsmith.Proofs.Follow.Layout
import Rowsmith.Proofs.Reading.Code
import Rowsmith.Proofs.Resolve.Integrity
import Rowsmith.Proofs.Writing.Emission

namespace Rowsmith.Emit

variable {s : Schema} {t : Table} {row : Row} {policy : FollowPolicy}

-- ============================================================= coverage

/-- The storages that getters read, each with the column it was read
from. -/
def places (fetches : List Fetch) : List (Storage × Nat) :=
  fetches.map fun fetch => (fetch.1.storage, fetch.2)

/-- A reading covers columns of the given storages from a column on: it
stops behind the last, it reads each of them at most once and in order as
what it stores, and it reads all of them if every value is present. -/
structure Covers (storages : List Storage) (start : Nat) (fetches : List Fetch) (whole : Bool)
    (stop : Nat) : Prop where
  stop : stop = start + storages.length
  sublist : (places fetches).Sublist (storages.zipIdx start)
  all : whole = true → places fetches = storages.zipIdx start

theorem Covers.nil (start : Nat) : Covers [] start [] true start :=
  ⟨rfl, List.Sublist.refl _, fun _ => rfl⟩

theorem Covers.getters {storages : List Storage} (getters : List Getter)
    (h : storages = getters.map (·.storage)) (start : Nat) :
    Covers storages start (getters.zipIdx start) true (start + getters.length) := by
  have hplaces : places (getters.zipIdx start) = storages.zipIdx start := by
    rw [h, List.zipIdx_map]
    rfl
  refine ⟨by rw [h, List.length_map], ?_, fun _ => hplaces⟩
  rw [hplaces]

/-- Columns that are skipped are covered without being read. -/
theorem Covers.skip (storages : List Storage) (start : Nat) :
    Covers storages start [] false (start + storages.length) :=
  ⟨rfl, List.nil_sublist _, fun h => by cases h⟩

/-- What is covered one after the other is covered together. -/
theorem Covers.append {storages storages' : List Storage} {start middle stop : Nat}
    {fetches fetches' : List Fetch} {whole whole' : Bool}
    (h : Covers storages start fetches whole middle)
    (h' : Covers storages' middle fetches' whole' stop) :
    Covers (storages ++ storages') start (fetches ++ fetches') (whole && whole') stop := by
  have hmiddle := h.stop
  subst hmiddle
  have hplaces : places (fetches ++ fetches') = places fetches ++ places fetches' :=
    List.map_append
  have hzip : (storages ++ storages').zipIdx start =
      storages.zipIdx start ++ storages'.zipIdx (start + storages.length) :=
    List.zipIdx_append
  constructor
  case stop =>
    have := h'.stop
    rw [List.length_append]
    omega
  case sublist =>
    rw [hplaces, hzip]
    exact h.sublist.append h'.sublist
  case all =>
    intro hall
    rw [Bool.and_eq_true] at hall
    rw [hplaces, hzip, h.all hall.1, h'.all hall.2]

-- ============================================================= readings

/-- A field that is read as a value is laid out as its getters read. -/
theorem fieldLayout_of_value (h : s.WellFormed) (ht : t ∈ s.tables) {f : TableField}
    (hf : f ∈ t.fields) {read : FieldRead} (hread : fieldRead s t.id f = .ok read)
    (hvalue : read.reference? = none) (policy : FollowPolicy) :
    s.fieldLayout policy f = read.getters.map (·.storage) := by
  obtain ⟨read', hread', hcolumns⟩ := fieldRead_ok s t.id (h.laid t ht f hf)
  obtain rfl := Except.ok.inj (hread.symm.trans hread')
  have hreference := fieldRead_reference hread
  rw [hvalue] at hreference
  have hnone : f.reference? = none := Option.map_eq_none_iff.1 hreference.symm
  unfold Schema.fieldLayout
  rw [hnone, hcolumns, List.append_nil]

/-- A field that is read as a reference is laid out as its key, followed
by what its arm reads or skips. -/
theorem fieldLayout_of_reference (h : s.WellFormed) (ht : t ∈ s.tables) {f : TableField}
    (hf : f ∈ t.fields) {read : ReferenceRead} (hread : fieldRead s t.id f = .ok (.reference read))
    {arm : ReferenceArm} (harm : read.arm? policy = some arm) :
    (s.fieldLayout (s.effective t.id policy) f = read.getter.storage ::
      match arm.entity with
      | some called => s.layout read.target.table called
      | none => []) ∧
    (read.nullable = true →
      (match arm.entity with
        | some called => s.layout read.target.table called
        | none => []).length = arm.skip) := by
  have hreference := fieldRead_reference hread
  change some read = _ at hreference
  obtain ⟨r, hr, rfl⟩ := Option.map_eq_some_iff.1 hreference.symm
  rw [arm?_eq rfl policy] at harm
  obtain rfl := Option.some.inj harm
  obtain ⟨name, hcolumns⟩ := (h.laid t ht f hf).reference hr
  unfold Schema.fieldLayout referenceArm
  rw [hr, hcolumns]
  dsimp only
  -- what is skipped is what the followed table would take
  by_cases hfollows : (s.effective t.id policy).follows = true
  · rw [if_pos hfollows, if_pos hfollows, hfollows, Bool.true_and]
    refine ⟨rfl, fun hnullable => ?_⟩
    rw [if_pos hnullable]
    exact Schema.length_layout h _ _
  · rw [if_neg hfollows, if_neg hfollows, Bool.eq_false_iff.2 hfollows]
    exact ⟨rfl, fun _ => rfl⟩

/-- A reading of fields covers their layout. -/
theorem Reads.covers (h : s.WellFormed) {plan : List FieldRead} {start stop : Nat}
    {fetches : List Fetch} {whole : Bool}
    (hreads : Reads s row policy plan start fetches whole stop)
    (ht : t ∈ s.tables) {fields : List TableField} (hplan : PlanOf s t fields plan) :
    Covers (fields.flatMap (s.fieldLayout (s.effective t.id policy))) start fetches whole stop := by
  -- on the reading: a call is a reading of its own, of another table, and so
  -- the table and its fields vary
  induction hreads generalizing t fields with
  | done =>
      cases hplan.2
      exact .nil _
  | value plain present next ih =>
      obtain ⟨hmem, hall⟩ := hplan
      cases hall with
      | cons hread hrest =>
          obtain ⟨hf, hfields⟩ := List.forall_mem_cons.1 hmem
          rw [List.flatMap_cons]
          exact (Covers.getters _ (fieldLayout_of_value h ht hf hread plain _) _).append
            (ih ht ⟨hfields, hrest⟩)
  | @skipped policy read rest start stop fetches whole plain absent next ih =>
      obtain ⟨hmem, hall⟩ := hplan
      cases hall with
      | cons hread hrest =>
          obtain ⟨hf, hfields⟩ := List.forall_mem_cons.1 hmem
          have hlayout := fieldLayout_of_value h ht hf hread plain (s.effective t.id policy)
          rw [List.flatMap_cons, hlayout]
          -- as much is skipped as would be read
          have hskip := Covers.skip (read.getters.map (·.storage)) start
          rw [List.length_map, ← FieldRead.skip_eq plain absent] at hskip
          exact hskip.append (ih ht ⟨hfields, hrest⟩)
  | @key policy read arm rest start stop fetches whole chosen shallow present next ih =>
      obtain ⟨hmem, hall⟩ := hplan
      cases hall with
      | cons hread hrest =>
          obtain ⟨hf, hfields⟩ := List.forall_mem_cons.1 hmem
          obtain ⟨hlayout, -⟩ := fieldLayout_of_reference h ht hf hread chosen
          rw [shallow] at hlayout
          rw [List.flatMap_cons, hlayout]
          exact (Covers.getters [read.getter] rfl start).append
            (ih ht ⟨hfields, hrest⟩)
  | @entity policy called read arm target plan rest start middle stop inner fetches innerWhole
      whole chosen deep present found planned call next ihCall ih =>
      obtain ⟨hmem, hall⟩ := hplan
      cases hall with
      | cons hread hrest =>
          obtain ⟨hf, hfields⟩ := List.forall_mem_cons.1 hmem
          obtain ⟨hlayout, -⟩ := fieldLayout_of_reference h ht hf hread chosen
          rw [deep] at hlayout
          -- the call covers the layout of the table it is to
          have hinner := ihCall (List.mem_of_getElem? found) (planOf_of_readPlan planned)
          rw [h.ids _ _ found, ← Schema.layout_eq found] at hinner
          rw [List.flatMap_cons, hlayout]
          have hkey := Covers.getters [read.getter] rfl start
          exact (hkey.append hinner).append (ih ht ⟨hfields, hrest⟩)
  | @absent policy read arm rest start stop fetches whole chosen absent next ih =>
      obtain ⟨hmem, hall⟩ := hplan
      cases hall with
      | cons hread hrest =>
          obtain ⟨hf, hfields⟩ := List.forall_mem_cons.1 hmem
          obtain ⟨hlayout, hskip⟩ := fieldLayout_of_reference h ht hf hread chosen
          have hnullable : read.nullable = true := (Bool.and_eq_true_iff.1 absent).1
          rw [List.flatMap_cons, hlayout]
          -- nothing behind the key is read, but as much is skipped
          have hskipped := Covers.skip (match arm.entity with
            | some called => s.layout read.target.table called
            | none => []) (start + 1)
          rw [hskip hnullable] at hskipped
          have hkey := Covers.getters [read.getter] rfl start
          exact (hkey.append hskipped).append (ih ht ⟨hfields, hrest⟩)

-- ============================================================= all rows

/-- The fields of a table can be read if the tables it follows can. -/
theorem exists_reads_of_calls (h : s.WellFormed) (ht : t ∈ s.tables)
    (hcalls : (s.effective t.id policy).follows = true → ∀ next ∈ s.successors t.id,
      ∀ target, s.tables[next]? = some target → ∀ start, ∃ plan fetches whole stop,
        readPlan s target = .ok plan ∧
          Reads s row (s.effective t.id policy).next plan start fetches whole stop)
    {fields : List TableField} {plan : List FieldRead} (hplan : PlanOf s t fields plan)
    (start : Nat) : ∃ fetches whole stop, Reads s row policy plan start fetches whole stop := by
  obtain ⟨hmem, hall⟩ := hplan
  induction hall generalizing start with
  | nil => exact ⟨_, _, _, .done⟩
  | @cons f read fields plan hread _ ih =>
      obtain ⟨hf, hfields⟩ := List.forall_mem_cons.1 hmem
      have hreference := fieldRead_reference hread
      cases hr : f.reference? with
      | none =>
          rw [hr] at hreference
          by_cases habsent : read.isAbsent row start = true
          · obtain ⟨_, _, _, hnext⟩ := ih (start + read.skip) hfields
            exact ⟨_, _, _, .skipped hreference habsent hnext⟩
          · obtain ⟨_, _, _, hnext⟩ := ih (start + read.getters.length) hfields
            exact ⟨_, _, _, .value hreference (Bool.eq_false_iff.2 habsent) hnext⟩
      | some r =>
          rw [hr] at hreference
          cases read with
          | column getter => cases hreference
          | converted getter conversion => cases hreference
          | assembled adapter getters optional => cases hreference
          | reference read =>
              have hread := Option.some.inj hreference
              have htable : read.target = r := by rw [hread]
              have harm : read.arm? policy = some (referenceArm s t.id f r policy) :=
                arm?_eq (by rw [hread]) policy
              -- the key is read first, and decides what of the rest is read
              by_cases habsent : read.isAbsent row start = true
              · obtain ⟨_, _, _, hnext⟩ :=
                  ih (start + 1 + (referenceArm s t.id f r policy).skip) hfields
                exact ⟨_, _, _, .absent harm habsent hnext⟩
              have hpresent := Bool.eq_false_iff.2 habsent
              by_cases hfollows : (s.effective t.id policy).follows = true
              · -- the table of the reference is there, and it is one that is joined here
                obtain ⟨target, -, -, htarget, -⟩ := h.referenced (h.references t ht f hf r hr)
                have hid := Schema.table_eq_ok.1 (h.table ht)
                obtain ⟨_, _, _, middle, hplanned, hcall⟩ := hcalls hfollows r.table
                  (Schema.mem_successors hid hf hr) target htarget (start + 1)
                obtain ⟨_, _, _, hnext⟩ := ih middle hfields
                have hdeep : (referenceArm s t.id f r policy).entity =
                    some (s.effective t.id policy).next := if_pos hfollows
                exact ⟨_, _, _,
                  .entity harm hdeep hpresent (htable ▸ htarget) hplanned hcall hnext⟩
              · obtain ⟨_, _, _, hnext⟩ := ih (start + 1) hfields
                have hshallow : (referenceArm s t.id f r policy).entity = none := if_neg hfollows
                exact ⟨_, _, _, .key harm hshallow hpresent hnext⟩

/-- Every row is read: the calls of reading functions come to an end. -/
theorem exists_reads (h : s.WellFormed) (row : Row) (id : TableId) (policy : FollowPolicy)
    (ht : s.tables[id]? = some t) (start : Nat) :
    ∃ plan fetches whole stop, readPlan s t = .ok plan ∧
      Reads s row policy plan start fetches whole stop := by
  -- joins end, since no chain of them is longer than the schema allows
  induction id, policy using s.follow_induction generalizing t start with
  | step id policy ih =>
      have hmem := List.mem_of_getElem? ht
      obtain ⟨plan, hplan⟩ := readPlan_succeeds h hmem
      have hid := h.ids id t ht
      subst hid
      obtain ⟨fetches, whole, stop, hreads⟩ := exists_reads_of_calls h hmem
        (fun hfollows next hnext target htarget start => ih hfollows next hnext htarget start)
        (planOf_of_readPlan hplan) start
      exact ⟨plan, fetches, whole, stop, hplan, hreads⟩

/-- On a row without nulls and zeros nothing is read as absent: a value
that may be absent has a column that would have to be null. -/
theorem Reads.whole_of_full (h : s.WellFormed) (hrow : row.Full) {plan : List FieldRead}
    {start stop : Nat} {fetches : List Fetch} {whole : Bool}
    (hreads : Reads s row policy plan start fetches whole stop) (ht : t ∈ s.tables)
    {fields : List TableField} (hplan : PlanOf s t fields plan) : whole = true := by
  induction hreads generalizing t fields with
  | done => rfl
  | value plain present next ih =>
      obtain ⟨hmem, hall⟩ := hplan
      cases hall with
      | cons hread hrest => exact ih ht ⟨(List.forall_mem_cons.1 hmem).2, hrest⟩
  | @skipped policy read rest start stop fetches whole plain absent next ih =>
      obtain ⟨hmem, hall⟩ := hplan
      cases hall with
      | @cons f _ _ _ hread hrest =>
          have hf := (List.forall_mem_cons.1 hmem).1
          obtain ⟨read', hread', hcolumns⟩ := fieldRead_ok s t.id (h.laid t ht f hf)
          obtain rfl := Except.ok.inj (hread.symm.trans hread')
          cases read with
          | column getter => cases absent
          | converted getter conversion => cases absent
          | reference read => cases plain
          | assembled adapter getters optional =>
              -- absent with no column at all would be absent on every row
              obtain ⟨hoptional, hnull⟩ := Bool.and_eq_true_iff.1 absent
              rw [fieldRead_optional hread] at hoptional
              have hgetters : 0 < getters.length := by
                have hlength := congrArg List.length hcolumns
                rw [List.length_map, List.length_map] at hlength
                have hfilled := List.length_pos_iff.2 (h.filled t ht f hf hoptional)
                rw [hlength] at hfilled
                exact hfilled
              have hfirst := List.all_eq_true.1 hnull 0 (List.mem_range.2 hgetters)
              rw [(hrow (start + 0)).1] at hfirst
              cases hfirst
  | key chosen shallow present next ih =>
      obtain ⟨hmem, hall⟩ := hplan
      cases hall with
      | cons hread hrest => exact ih ht ⟨(List.forall_mem_cons.1 hmem).2, hrest⟩
  | entity chosen deep present found planned call next ihCall ih =>
      obtain ⟨hmem, hall⟩ := hplan
      cases hall with
      | cons hread hrest =>
          rw [ihCall (List.mem_of_getElem? found) (planOf_of_readPlan planned),
            ih ht ⟨(List.forall_mem_cons.1 hmem).2, hrest⟩]
          rfl
  | @absent policy read arm rest start stop fetches whole chosen absent next ih =>
      obtain ⟨-, hshown⟩ := Bool.and_eq_true_iff.1 absent
      rw [(hrow start).1, (hrow start).2, Bool.and_false] at hshown
      cases hshown

-- ================================================================= main

/-- The columns selected for a table, by storage, each with its position
in a row in which they begin at a given one. -/
def selectedPlaces (columns : List ColumnRef) (start : Nat) : List (Storage × Nat) :=
  (columns.map (·.column.storage)).zipIdx start

/-- Reading goes in step with selecting. For every table of a resolved
schema and every policy there are columns to select and a plan to read
them by, and every row can be read. On every row, a reading stops behind
the selected columns, and the getters it calls read selected columns in
order, each as what it stores. They read exactly the selected columns if
every value that may be absent is present, as it is in a row without
nulls and zeros. And wherever a reading of some consecutive fields
begins, it ends as many columns later as are counted for them, on every
row: whether a value is present or absent, what comes after it is read
from the same column. -/
theorem reading_in_step {room : Nat}
    {answers : List TypeExpr → TypeExpr → Except Failure (List FieldDecl)} {locator : Locator}
    {request : Request} (hs : resolveWithin room answers locator request = .ok s)
    (ht : t ∈ s.tables) (policy : FollowPolicy) :
    ∃ columns plan, s.selectColumns t policy = .ok columns ∧ readPlan s t = .ok plan ∧
      (∀ row start, ∃ fetches whole stop, Reads s row policy plan start fetches whole stop) ∧
      (∀ row start fetches whole stop, Reads s row policy plan start fetches whole stop →
        stop = start + columns.length ∧
        (places fetches).Sublist (selectedPlaces columns start) ∧
        (whole = true → places fetches = selectedPlaces columns start) ∧
        (row.Full → whole = true)) ∧
      (∀ before count row start fetches whole stop,
        Reads s row policy ((plan.drop before).take count) start fetches whole stop →
        stop = start + total (((t.fields.drop before).take count).map fun f =>
          s.fieldColumnCount f (s.effective t.id policy))) ∧
      ∀ target file, tableUnit s target t = .ok file → file.ReadsBy s target t plan := by
  have h := wellFormed_of_resolveWithin hs
  have hid := Schema.table_eq_ok.1 (h.table ht)
  obtain ⟨columns, hcolumns, hlayout⟩ := Schema.selectColumns_ok h ht policy
  obtain ⟨plan, hplan⟩ := readPlan_succeeds h ht
  have hplanOf := planOf_of_readPlan hplan
  refine ⟨columns, plan, hcolumns, hplan, ?_, ?_, ?_, fun target file hunit =>
    tableUnit_readsBy hunit hplan⟩
  · intro row start
    obtain ⟨plan', fetches, whole, stop, hplan', hreads⟩ := exists_reads h row t.id policy hid start
    obtain rfl := Except.ok.inj (hplan.symm.trans hplan')
    exact ⟨fetches, whole, stop, hreads⟩
  · intro row start fetches whole stop hreads
    have hcovers := hreads.covers h ht hplanOf
    rw [← Schema.layout_eq hid, ← hlayout] at hcovers
    refine ⟨?_, hcovers.sublist, hcovers.all, fun hrow => hreads.whole_of_full h hrow ht hplanOf⟩
    rw [hcovers.stop, List.length_map]
  · -- a part of the plan is a plan for that part of the fields
    intro before count row start fetches whole stop hreads
    have hpart : PlanOf s t ((t.fields.drop before).take count) ((plan.drop before).take count) :=
      ⟨fun f hf => hplanOf.1 f (List.mem_of_mem_drop (List.mem_of_mem_take hf)),
        List.forall₂_take count (List.forall₂_drop before hplanOf.2)⟩
    rw [(hreads.covers h ht hpart).stop, length_flatMap_eq_total]
    refine congrArg (fun counts => start + total counts) (List.map_congr_left fun f hf => ?_)
    exact Schema.length_fieldLayout h (h.laid t ht f (hpart.1 f hf)) _

/-- A row of which every value is present. -/
def fullRow : Row := ⟨fun _ => false, fun _ => false⟩

/-- Of two models that refer to each other, one is read with the other by
four getters, on the four columns that are selected, and its unit has the
function that reads it so. -/
theorem reading_in_step_mutual :
    ∃ s t columns plan fetches file, resolve mutualDescriber Registry.empty.locator
        mutualRequest = .ok s ∧ t ∈ s.tables ∧ s.selectColumns t .all = .ok columns ∧
      columns.length = 4 ∧ Reads s fullRow .all plan 0 fetches true 4 ∧
      places fetches = selectedPlaces columns 0 ∧ tableUnit s .default t = .ok file ∧
      file.ReadsBy s .default t plan := by
  have hfound : ((resolve mutualDescriber Registry.empty.locator mutualRequest).toOption.filter
      fun s => s.texts.all Text.isSingleLine && decide (∃ t ∈ s.tables,
        (s.selectColumns t .all).toOption.map List.length = some 4)).isSome = true := by
    decide +kernel
  obtain ⟨s, hfound⟩ := Option.isSome_iff_exists.1 hfound
  obtain ⟨hs, hchecks⟩ := Option.filter_eq_some_iff.1 hfound
  have hresolved := Attempt.toOption_eq_some.1 hs
  obtain ⟨htexts, htables⟩ := Bool.and_eq_true_iff.1 hchecks
  obtain ⟨t, ht, hfour⟩ := of_decide_eq_true htables
  obtain ⟨columns, plan, hcolumns, -, hread, hall, -, hunits⟩ := reading_in_step hresolved ht .all
  have hcount : columns.length = 4 := by
    rw [hcolumns] at hfour
    exact Option.some.inj hfour
  obtain ⟨fetches, whole, stop, hreads⟩ := hread fullRow 0
  obtain ⟨hstop, -, hplaces, hfull⟩ := hall fullRow 0 fetches whole stop hreads
  have hwhole := hfull fun _ => ⟨rfl, rfl⟩
  subst hwhole
  rw [hcount] at hstop
  subst hstop
  obtain ⟨file, hunit⟩ : ∃ file, tableUnit s .default t = .ok file :=
    tableUnit_of_texts hresolved (by decide) (List.all_eq_true.1 htexts) (by decide) ht
  exact ⟨s, t, columns, plan, fetches, file, hresolved, ht, hcolumns, hcount, hreads, hplaces rfl,
    hunit, hunits .default file hunit⟩

end Rowsmith.Emit

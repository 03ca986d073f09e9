/-
Schemas with further tables. A table is read without looking at more of the
schema than the tables it refers to, directly or through others. So in a
schema that has the tables of a well-formed one, and further tables behind
them, everything said of the tables that were there is as it was, down to
the lines of the statements (`render_eq`).

# What is compared

References of a well-formed schema stay among its tables
(`WellFormed.refersTo_lt`). So the same tables are reached and the same
cycles found (`reachesCycle_eq`), and the same policies are applied
(`effective_eq`). The bound on the recursions is larger in the schema with
more tables; once it covers all chains of joins this makes no difference
(`columnCountWithin_eq`, `visitTable_eq`). With no further tables these
lemmas say that the bounds do not matter.
-/
import Rowsmith.Proofs.Follow.Chains
import Rowsmith.Proofs.Schema.WellFormed
import Rowsmith.Sql.Render

namespace Rowsmith

namespace Schema

open Relation

variable {s s' : Schema} {n m : Nat} {id next : TableId} {policy : FollowPolicy} {t : Table}
  {f : TableField} {r : Reference} {name : String}

-- =========================================================== references

/-- A reference of a well-formed schema is to one of its tables. -/
theorem WellFormed.reference_lt (h : s.WellFormed) (ht : t ∈ s.tables) (hf : f ∈ t.fields)
    (hr : f.reference? = some r) : r.table < s.tables.length := by
  obtain ⟨target, -, htarget, -⟩ := h.references t ht f hf r hr
  exact (List.getElem?_eq_some_iff.1 htarget).1

theorem WellFormed.refersTo_lt (h : s.WellFormed) (hrefers : s.RefersTo id next) :
    next < s.tables.length := by
  obtain ⟨t, ht, f, hf, r, hr, rfl⟩ := hrefers
  exact h.reference_lt (List.mem_of_getElem? ht) hf hr

/-- A table knows a position of the schema. -/
theorem WellFormed.id_lt (h : s.WellFormed) (ht : t ∈ s.tables) : t.id < s.tables.length :=
  (List.getElem?_eq_some_iff.1 (table_eq_ok.1 (h.table ht))).1

section

variable (h : s.WellFormed) (hmore : s.tables <+: s'.tables)
include hmore

theorem getElem?_eq (hid : id < s.tables.length) : s'.tables[id]? = s.tables[id]? := by
  obtain ⟨more, hmore⟩ := hmore
  rw [← hmore, List.getElem?_append_left hid]

theorem table_eq (hid : id < s.tables.length) : s'.table id = s.table id := by
  unfold table
  rw [getElem?_eq hmore hid, List.getElem?_eq_getElem hid]

theorem keyColumn_eq (hr : r.table < s.tables.length) : s'.keyColumn r = s.keyColumn r := by
  unfold keyColumn
  rw [table_eq hmore hr]

theorem refersTo_iff (hid : id < s.tables.length) : s'.RefersTo id next ↔ s.RefersTo id next := by
  unfold RefersTo
  rw [getElem?_eq hmore hid]

/-- The bound on the recursions over a schema grows with the tables. -/
theorem chainBound_le : s.chainBound ≤ s'.chainBound := by
  have hle := hmore.length_le
  rw [chainBound_eq, chainBound_eq]
  omega

-- =============================================================== cycles

include h

/-- The same tables are reached, and all of them were there. -/
theorem reflTransGen_iff (hid : id < s.tables.length) :
    ReflTransGen s'.RefersTo id next ↔
      ReflTransGen s.RefersTo id next ∧ next < s.tables.length := by
  constructor
  · intro hreach
    induction hreach with
    | refl => exact ⟨.refl, hid⟩
    | tail _ hlast ih =>
        obtain ⟨hreach, hmiddle⟩ := ih
        have hlast := (refersTo_iff hmore hmiddle).1 hlast
        exact ⟨hreach.tail hlast, h.refersTo_lt hlast⟩
  · intro ⟨hreach, _⟩
    exact ReflTransGen.mono (fun _ _ hrefers => (refersTo_iff hmore hrefers.lt).2 hrefers) _ _
      hreach

theorem transGen_iff (hid : id < s.tables.length) :
    TransGen s'.RefersTo id next ↔ TransGen s.RefersTo id next := by
  rw [TransGen.tail'_iff, TransGen.tail'_iff]
  refine exists_congr fun last => ?_
  rw [reflTransGen_iff h hmore hid]
  constructor
  · intro ⟨⟨hreach, hlast⟩, hrefers⟩
    exact ⟨hreach, (refersTo_iff hmore hlast).1 hrefers⟩
  · intro ⟨hreach, hrefers⟩
    exact ⟨⟨hreach, hrefers.lt⟩, (refersTo_iff hmore hrefers.lt).2 hrefers⟩

theorem leadsToCycle_eq (hid : id < s.tables.length) :
    s'.LeadsToCycle id ↔ s.LeadsToCycle id := by
  unfold LeadsToCycle
  refine exists_congr fun on => ?_
  rw [reflTransGen_iff h hmore hid]
  constructor
  · intro ⟨⟨hreach, hon⟩, hcycle⟩
    exact ⟨hreach, (transGen_iff h hmore hon).1 hcycle⟩
  · intro ⟨hreach, hcycle⟩
    obtain ⟨first, hfirst, -⟩ := TransGen.head'_iff.1 hcycle
    exact ⟨⟨hreach, hfirst.lt⟩, (transGen_iff h hmore hfirst.lt).2 hcycle⟩

theorem reachesCycle_eq (hid : id < s.tables.length) :
    s'.reachesCycle id = s.reachesCycle id := by
  rw [Bool.eq_iff_iff, reachesCycle_iff, reachesCycle_iff]
  exact leadsToCycle_eq h hmore hid

theorem effective_eq (hid : id < s.tables.length) (policy : FollowPolicy) :
    s'.effective id policy = s.effective id policy := by
  unfold effective
  rw [reachesCycle_eq h hmore hid]

-- =============================================================== counts

/-- Columns are counted as before, whatever the bound, if it covers all
chains of joins. -/
theorem columnCountWithin_eq (hn : s.ChainsEnd n id policy) (hnm : n ≤ m)
    (hid : id < s.tables.length) :
    s'.columnCountWithin m id policy = s.columnCountWithin n id policy := by
  induction n generalizing m id policy with
  | zero => exact hn.elim
  | succ n ih =>
      cases m with
      | zero => omega
      | succ m =>
          unfold columnCountWithin
          rw [getElem?_eq hmore hid, List.getElem?_eq_getElem hid, effective_eq h hmore hid]
          refine congrArg total (List.map_congr_left fun f hf => ?_)
          cases hr : f.reference? with
          | none => rfl
          | some r =>
              by_cases hfollows : (s.effective id policy).follows = true
              · have hnext := hn hfollows r.table
                  (mem_successors (List.getElem?_eq_getElem hid) hf hr)
                dsimp only
                rw [if_pos hfollows, if_pos hfollows, ih hnext (by omega)
                  (h.reference_lt (List.getElem_mem hid) hf hr)]
              · dsimp only
                rw [if_neg hfollows, if_neg hfollows]

theorem columnCount_eq (hid : id < s.tables.length) (policy : FollowPolicy) :
    s'.columnCount id policy = s.columnCount id policy :=
  columnCountWithin_eq h hmore ((s.chainsEnd id policy).mono (by rw [chainBound_eq]; omega))
    (chainBound_le hmore) hid

-- ================================================================= walk

/-- A field is visited as before, if the table it is followed to is. -/
theorem visitField_eq (ht : t ∈ s.tables) (hf : f ∈ t.fields)
    {visit visit' : Table → String → FollowPolicy → Walk → Except Defect Walk}
    (hvisit : policy.follows = true → ∀ r, f.reference? = some r → ∀ target,
      s.tables[r.table]? = some target → ∀ name w,
        visit' target name policy.next w = visit target name policy.next w)
    (w : Walk) :
    s'.visitField visit' t name policy w f = s.visitField visit t name policy w f := by
  unfold visitField
  dsimp only
  cases hr : f.reference? with
  | none => rfl
  | some r =>
      dsimp only
      by_cases hfollows : policy.follows = true
      · rw [if_pos hfollows, if_pos hfollows]
        have hlt := h.reference_lt ht hf hr
        obtain ⟨target, -, htarget, -⟩ := h.references t ht f hf r hr
        rw [table_eq hmore hlt, keyColumn_eq hmore hlt, table_eq_ok.2 htarget]
        simp only [bind, Except.bind]
        cases f.column with
        | error e => rfl
        | ok column =>
            cases s.keyColumn r with
            | error e => rfl
            | ok targetColumn => exact hvisit hfollows r hr target htarget _ _
      · rw [if_neg hfollows, if_neg hfollows]

/-- A table is visited as before, whatever the bound, if it covers all
chains of joins. -/
theorem visitTable_eq (hn : s.ChainsEnd n t.id policy) (hnm : n ≤ m) (ht : t ∈ s.tables)
    (name : String) (w : Walk) :
    s'.visitTable m t name policy w = s.visitTable n t name policy w := by
  induction n generalizing m t name policy w with
  | zero => exact hn.elim
  | succ n ih =>
      cases m with
      | zero => omega
      | succ m =>
          unfold visitTable
          rw [effective_eq h hmore (h.id_lt ht)]
          refine Attempt.foldlM_congr (fun f hf w => ?_) w
          refine visitField_eq h hmore ht hf (fun hfollows r hr target htarget name w => ?_) w
          -- behind the join there is one table less to come
          have hnext := hn hfollows r.table (mem_successors (table_eq_ok.1 (h.table ht)) hf hr)
          rw [← h.ids r.table target htarget] at hnext
          exact ih hnext (by omega) (List.mem_of_getElem? htarget) name w

theorem walk_eq (ht : t ∈ s.tables) (policy : FollowPolicy) :
    s'.walk t policy = s.walk t policy :=
  visitTable_eq h hmore ((s.chainsEnd t.id policy).mono (by rw [chainBound_eq]; omega))
    (chainBound_le hmore) ht t.name _

theorem selectColumns_eq (ht : t ∈ s.tables) (policy : FollowPolicy) :
    s'.selectColumns t policy = s.selectColumns t policy := by
  unfold selectColumns
  rw [effective_eq h hmore (h.id_lt ht), walk_eq h hmore ht]

theorem joins_eq (ht : t ∈ s.tables) (policy : FollowPolicy) :
    s'.joins t policy = s.joins t policy := by
  unfold joins
  rw [walk_eq h hmore ht]

end

end Schema

-- =========================================================== statements

namespace Sql

variable {s s' : Schema} {t : Table} {f : TableField}

/-- The table of a statement; a filter completes others and names none. -/
def Statement.table? : Statement → Option TableId
  | .createTable table _ _ | .delete table | .dropTable table _ | .insert table _
  | .select table _ | .update table _ => some table
  | .filter _ _ => none

variable (h : s.WellFormed) (hmore : s.tables <+: s'.tables)
include h hmore

theorem referenceDefinitions_eq (ht : t ∈ s.tables) (hf : f ∈ t.fields) :
    referenceDefinitions s' f = referenceDefinitions s f := by
  unfold referenceDefinitions
  cases hr : f.reference? with
  | none => rfl
  | some r =>
      have hlt := h.reference_lt ht hf hr
      dsimp only
      rw [Schema.table_eq hmore hlt, Schema.keyColumn_eq hmore hlt]

theorem definitions_eq (ht : t ∈ s.tables) (foreignKeys : Bool) :
    definitions s' t foreignKeys = definitions s t foreignKeys := by
  unfold definitions
  rw [Attempt.mapM_congr fun f hf => referenceDefinitions_eq h hmore ht hf]

/-- The clauses of a statement whose table was there are as they were. -/
theorem clauses_eq (flavor : Flavor) {statement : Statement}
    (hstatement : ∀ id, statement.table? = some id → id < s.tables.length) :
    clauses s' flavor statement = clauses s flavor statement := by
  cases statement with
  | filter columns joiner => rfl
  | createTable id ifNotExists foreignKeys =>
      have hid := hstatement id rfl
      have ht := List.getElem?_eq_getElem hid
      simp only [clauses, Schema.table_eq hmore hid, Schema.table_eq_ok.2 ht, bind, Except.bind,
        definitions_eq h hmore (List.mem_of_getElem? ht)]
  | select id policy =>
      have hid := hstatement id rfl
      have ht := List.getElem?_eq_getElem hid
      simp only [clauses, Schema.table_eq hmore hid, Schema.table_eq_ok.2 ht, bind, Except.bind,
        Schema.selectColumns_eq h hmore (List.mem_of_getElem? ht),
        Schema.joins_eq h hmore (List.mem_of_getElem? ht)]
  | _ id =>
      -- only the table itself is looked at
      simp only [clauses, Schema.table_eq hmore (hstatement id rfl)]

theorem render_eq (flavor : Flavor) {statement : Statement}
    (hstatement : ∀ id, statement.table? = some id → id < s.tables.length) :
    render s' flavor statement = render s flavor statement := by
  unfold render
  rw [clauses_eq h hmore flavor hstatement]

end Sql

end Rowsmith

/-
Following references ends, in every schema that was resolved, be there
cycles in it or tables that refer to themselves.

Two recursions follow the references of a table: one counts the columns that
are read, the other collects them with the joins. Both go on behind a join
under the policy that is left there, and ask at each table which policy is
really applied. No argument of theirs gets smaller. What ends is the chain of
calls: under the deepest policy it can only go on where no cycle is reached,
and so comes to no table twice, and a policy that gave way at one table is
not taken up again behind it (`JoinChain.bounded`).

# What is shown

The calls that lead to each other are well-founded (`behind_wellFounded`).
The definitions, which only look as far as a fixed bound, satisfy the
equations of the recursions without any (`columnCount_eq_total`, `visit_eq`).
And the joins that are made lie on chains of nested joins
(`Selects.joinChain`).
-/
import Rowsmith.Proofs.Follow.Extension
import Rowsmith.Proofs.Follow.Selection
import Rowsmith.Proofs.Resolve.Integrity

namespace Rowsmith.Schema

variable {s : Schema} {id : TableId} {policy applied : FollowPolicy} {chain : List TableId}
  {t : Table} {name : String} {fields : List TableField} {joins : List Join}
  {columns : List ColumnRef} {j : Join}

-- ================================================================ calls

/-- One call leads to another: the table of the first refers to that of the
second, references are followed there, and the second is made with the policy
that is left. -/
def Behind (s : Schema) (next here : TableId × FollowPolicy) : Prop :=
  (s.effective here.1 here.2).follows = true ∧ s.RefersTo here.1 next.1 ∧
    next.2 = (s.effective here.1 here.2).next

/-- No chain of calls goes on for ever. -/
theorem behind_wellFounded (s : Schema) : WellFounded s.Behind := by
  refine ⟨fun ⟨id, policy⟩ => ?_⟩
  induction id, policy using follow_induction (s := s) with
  | step id policy ih =>
      refine ⟨_, fun ⟨next, left⟩ hbehind => ?_⟩
      obtain ⟨hfollows, hrefers, rfl⟩ := hbehind
      exact ih hfollows next (mem_successors_iff.2 hrefers)

/-- The columns of a table are counted field by field, with no bound on the
chains of joins. -/
theorem columnCount_eq_total (h : s.WellFormed) (ht : t ∈ s.tables) (policy : FollowPolicy) :
    s.columnCount t.id policy =
      total (t.fields.map fun f => s.fieldColumnCount f (s.effective t.id policy)) := by
  unfold columnCount
  rw [chainBound_eq]
  unfold columnCountWithin
  rw [table_eq_ok.1 (h.table ht)]
  refine congrArg total (List.map_congr_left fun f hf => ?_)
  unfold fieldColumnCount
  cases hr : f.reference? with
  | none => rfl
  | some r =>
      -- behind the join the bound is one smaller, which does not matter
      have hbound : s.columnCount r.table (s.effective t.id policy).next =
          s.columnCountWithin (s.tables.length + 1) r.table (s.effective t.id policy).next :=
        columnCountWithin_eq h List.prefix_rfl (s.chainsEnd r.table _)
          (by rw [chainBound_eq]; omega) (h.reference_lt ht hf hr)
      dsimp only
      rw [hbound]

/-- The walk over a table that goes by a name, under a policy. -/
def visit (s : Schema) : Table → String → FollowPolicy → Walk → Except Defect Walk :=
  s.visitTable s.chainBound

/-- A table is visited field by field, with no bound on the chains of
joins. -/
theorem visit_eq (h : s.WellFormed) (ht : t ∈ s.tables) (name : String) (policy : FollowPolicy)
    (w : Walk) :
    s.visit t name policy w =
      t.fields.foldlM (s.visitField s.visit t name (s.effective t.id policy)) w := by
  have hbound : s.visit t name policy w =
      s.visitTable (s.tables.length + 1 + 1 + 1) t name policy w :=
    (visitTable_eq h List.prefix_rfl ((s.chainsEnd t.id policy).mono (by rw [chainBound_eq]; omega))
      (by rw [chainBound_eq]; omega) ht name w).symm
  rw [hbound]
  rfl

-- =============================================================== chains

/-- The tables of a chain are tables of the schema. -/
theorem JoinChain.lt (h : s.JoinChain id policy chain) (hs : s.WellFormed) :
    ∀ next ∈ chain, next < s.tables.length := by
  induction h with
  | stop => exact fun _ hnext => nomatch hnext
  | join _ refers _ ih => exact List.forall_mem_cons.2 ⟨hs.refersTo_lt refers, ih⟩

/-- How far a chain of nested joins goes: where all references are followed
and no cycle is reached it comes to no table twice, and so has fewer joins
than there are tables; elsewhere it has at most one. -/
theorem JoinChain.bounded (h : s.JoinChain id policy chain) (hs : s.WellFormed)
    (hid : id < s.tables.length) :
    if policy = .all ∧ s.reachesCycle id = false then
      (id :: chain).Nodup ∧ chain.length < s.tables.length
    else chain.length ≤ 1 := by
  split
  case isTrue hall =>
    have hnodup := h.nodup (reachesCycle_eq_false_iff.1 hall.2)
    have hsubset : id :: chain ⊆ List.range s.tables.length := by
      refine List.cons_subset.2 ⟨List.mem_range.2 hid, fun next hnext => ?_⟩
      exact List.mem_range.2 (h.lt hs next hnext)
    refine ⟨hnodup, ?_⟩
    have hlength := (List.subperm_of_subset hnodup hsubset).length_le
    rwa [List.length_cons, List.length_range] at hlength
  case isFalse hother =>
    exact h.length_le_one fun hall => hother (effective_eq_all_iff.1 hall)

/-- Every join that is selected ends a chain of nested joins from its
table. -/
theorem Selects.joinChain (hs : s.WellFormed) (h : s.Selects t name applied fields joins columns)
    (happlied : applied = s.effective t.id policy) (ht : t ∈ s.tables)
    (hfields : fields ⊆ t.fields) (hj : j ∈ joins) :
    ∃ before, s.JoinChain t.id policy (before ++ [j.target.id]) ∧
      (t.id :: before).getLast? = some j.source.id := by
  induction h generalizing policy with
  | done => cases hj
  | own _ _ ih => exact ih happlied ht (List.subset_of_cons_subset hfields) hj
  | @joined t name applied f r k rest deeper joins block columns refers follows source _ _ target
      _ _ _ ihInner ih =>
      subst happlied
      have htarget := hs.ids r.table k.target target
      have hrefers : s.RefersTo t.id k.target.id :=
        ⟨t, table_eq_ok.1 (hs.table ht), f, hfields List.mem_cons_self, r, refers, htarget.symm⟩
      rcases List.mem_cons.1 hj with rfl | hj
      · -- the join by which the field itself is followed
        exact ⟨[], .join follows hrefers .stop, by rw [source]; rfl⟩
      · rcases List.mem_append.1 hj with hj | hj
        · -- a join behind it
          obtain ⟨before, hchain, hlast⟩ :=
            ihInner rfl (List.mem_of_getElem? target) (List.Subset.refl _) hj
          exact ⟨k.target.id :: before, .join follows hrefers hchain, by
            rw [List.getLast?_cons_cons, hlast]⟩
        · exact ih rfl ht (List.subset_of_cons_subset hfields) hj

/-- Following references ends in every resolved schema, for every table and
policy. The calls of the recursions that count and that collect the columns
lead to each other only so often; both satisfy their equations, in which the
policy that is applied is asked for at each table again. Under the deepest
policy, at a table that reaches no cycle, no table repeats along a chain of
nested joins, and it has fewer joins than the schema has tables; in every
other case it has at most one. All joins that are made lie on such
chains. -/
theorem following_ends {room : Nat}
    {answers : List TypeExpr → TypeExpr → Except Failure (List FieldDecl)} {locator : Locator}
    {request : Request} {s : Schema} (h : resolveWithin room answers locator request = .ok s) :
    WellFounded s.Behind ∧
    ∀ t ∈ s.tables, ∀ policy,
      (s.columnCount t.id policy =
        total (t.fields.map fun f => s.fieldColumnCount f (s.effective t.id policy))) ∧
      (∀ name w, s.visit t name policy w =
        t.fields.foldlM (s.visitField s.visit t name (s.effective t.id policy)) w) ∧
      (∀ chain, s.JoinChain t.id policy chain →
        if policy = .all ∧ s.reachesCycle t.id = false then
          (t.id :: chain).Nodup ∧ chain.length < s.tables.length
        else chain.length ≤ 1) ∧
      ∃ joins, s.joins t policy = .ok joins ∧ ∀ j ∈ joins, ∃ before,
        s.JoinChain t.id policy (before ++ [j.target.id]) ∧
          (t.id :: before).getLast? = some j.source.id := by
  have hs := wellFormed_of_resolveWithin h
  refine ⟨s.behind_wellFounded, fun t ht policy => ⟨columnCount_eq_total hs ht policy,
    fun name w => visit_eq hs ht name policy w,
    fun chain hchain => hchain.bounded hs (hs.id_lt ht), ?_⟩⟩
  obtain ⟨w, hw, hselects, -⟩ := walk_ok hs ht policy
  refine ⟨w.joins, Attempt.bind_eq_ok.2 ⟨w, hw, rfl⟩, fun j hj => ?_⟩
  exact hselects.joinChain hs rfl ht (List.Subset.refl _) hj

/-- Two models that refer to each other are resolved, and following their
references ends. -/
theorem following_ends_mutual :
    ∃ s, resolve mutualDescriber Registry.empty.locator mutualRequest = .ok s ∧
      WellFounded s.Behind ∧ ∀ t ∈ s.tables, ∃ joins, s.joins t .all = .ok joins := by
  obtain ⟨s, -, -, -, hs, -⟩ := mutual_resolves
  obtain ⟨hcalls, htables⟩ := following_ends hs
  refine ⟨s, hs, hcalls, fun t ht => ?_⟩
  obtain ⟨-, -, -, joins, hjoins, -⟩ := htables t ht .all
  exact ⟨joins, hjoins⟩

end Rowsmith.Schema

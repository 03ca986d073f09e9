/-
Chains of joins end. Following the references of a table joins further
tables, whose references may be followed in turn, and the recursions over
a schema only look as far as a fixed bound. This file shows that the
bound is never reached.

# Why the bound suffices

The shallow policies join at most once and read keys after that
(`JoinChain.length_le_one`). The deepest policy is applied only where no
cycle of references can be reached, and there a chain that came to some
table twice would be one (`JoinChain.nodup`). So no chain has more joins
than the schema has tables (`JoinChain.length_le`), which is less than
`chainBound`.

From this come two tools: an induction along joins (`follow_induction`),
and the fact that a bounded recursion no longer changes once the bound
covers all chains (`ChainsEnd`).
-/
import Mathlib.Data.List.Chain
import Mathlib.Data.List.Perm.Subperm
import Rowsmith.Proofs.Follow.Cycles

namespace Rowsmith.Schema

open Relation

variable {s : Schema} {n m : Nat} {id : TableId} {policy : FollowPolicy} {chain : List TableId}

-- ============================================================= policies

theorem effective_of_ne_all (h : policy ≠ .all) : s.effective id policy = policy := by
  unfold effective
  rw [if_neg fun hall => h hall.1]

/-- References are followed all the way if this is asked for at a table that
leads into no cycle, and nowhere else. -/
theorem effective_eq_all_iff :
    s.effective id policy = .all ↔ policy = .all ∧ s.reachesCycle id = false := by
  unfold effective
  split
  case isTrue h => simp [h.2]
  case isFalse h =>
    constructor
    · intro hall
      exact ⟨hall, by simpa using fun hcycle => h ⟨hall, hcycle⟩⟩
    · exact And.left

/-- Anywhere else only keys are read behind a join. -/
theorem next_effective_of_ne_all (h : s.effective id policy ≠ .all) :
    (s.effective id policy).next = .keys := by
  generalize s.effective id policy = applied at h
  cases applied with
  | all => exact absurd rfl h
  | keys => rfl
  | oneLevel => rfl

-- =============================================================== chains

/-- A chain of nested joins from a table under a policy: the tables joined,
each by a reference of the one before, and under the policy that is left for
it there. -/
inductive JoinChain (s : Schema) : TableId → FollowPolicy → List TableId → Prop
  -- The chain goes no further.
  | stop {id : TableId} {policy : FollowPolicy} : JoinChain s id policy []
  -- A reference is followed, and the chain goes on behind the join.
  | join {id next : TableId} {policy : FollowPolicy} {rest : List TableId}
      (follows : (s.effective id policy).follows = true) (refers : s.RefersTo id next)
      (behind : JoinChain s next (s.effective id policy).next rest) :
      JoinChain s id policy (next :: rest)

theorem JoinChain.eq_nil_of_keys (h : s.JoinChain id .keys chain) : chain = [] := by
  cases h with
  | stop => rfl
  | join follows =>
      rw [effective_of_ne_all (by decide)] at follows
      cases follows

/-- Where references are not followed all the way, there is at most one
join. -/
theorem JoinChain.length_le_one (h : s.JoinChain id policy chain)
    (heffective : s.effective id policy ≠ .all) : chain.length ≤ 1 := by
  cases h with
  | stop => exact Nat.zero_le 1
  | join _ _ behind =>
      rw [next_effective_of_ne_all heffective] at behind
      rw [behind.eq_nil_of_keys]
      exact Nat.le_refl 1

/-- A chain runs along references. -/
theorem JoinChain.isChain (h : s.JoinChain id policy chain) :
    List.IsChain s.RefersTo (id :: chain) := by
  induction h with
  | stop => exact .singleton _
  | join _ refers _ ih => exact .cons_cons refers ih

/-- A chain from a table that leads into no cycle never comes to a table
twice. -/
theorem JoinChain.nodup (h : s.JoinChain id policy chain) (hcycle : ¬s.LeadsToCycle id) :
    (id :: chain).Nodup := by
  -- each table is reached from every one before it
  have hreached : (id :: chain).Pairwise (TransGen s.RefersTo) :=
    List.isChain_iff_pairwise.1 (h.isChain.imp fun _ _ => .single)
  refine hreached.imp_of_mem fun {a b} ha _ hab hsame => ?_
  subst hsame
  refine hcycle ⟨a, ?_, hab⟩
  rcases List.mem_cons.1 ha with rfl | ha
  · exact .refl
  · exact ((List.pairwise_cons.1 hreached).1 a ha).to_reflTransGen

/-- All tables of a chain but the last refer to another. -/
theorem JoinChain.dropLast_subset (h : s.JoinChain id policy chain) :
    (id :: chain).dropLast ⊆ List.range s.tables.length := by
  induction h with
  | stop => exact List.nil_subset _
  | join _ refers _ ih =>
      rw [List.dropLast_cons_cons]
      exact List.cons_subset.2 ⟨List.mem_range.2 refers.lt, ih⟩

/-- No chain has more joins than there are tables. -/
theorem JoinChain.length_le (h : s.JoinChain id policy chain) :
    chain.length ≤ s.tables.length := by
  by_cases heffective : s.effective id policy = .all
  · have hcycle := reachesCycle_eq_false_iff.1 (effective_eq_all_iff.1 heffective).2
    have hnodup := (h.nodup hcycle).sublist (List.dropLast_sublist _)
    have hlength := (List.subperm_of_subset hnodup h.dropLast_subset).length_le
    rwa [List.length_dropLast, List.length_cons, Nat.add_sub_cancel, List.length_range] at hlength
  · cases h with
    | stop => exact Nat.zero_le _
    | join follows refers behind =>
        have hone := (JoinChain.join follows refers behind).length_le_one heffective
        exact Nat.le_trans hone (Nat.zero_lt_of_lt refers.lt)

/-- Every chain of joins from a table under a policy has at most `n`
tables, the table itself included. -/
def ChainsEnd (s : Schema) : Nat → TableId → FollowPolicy → Prop
  | 0, _, _ => False
  | n + 1, id, policy => (s.effective id policy).follows = true →
      ∀ next ∈ s.successors id, s.ChainsEnd n next (s.effective id policy).next

theorem ChainsEnd.mono (h : s.ChainsEnd n id policy) (hnm : n ≤ m) :
    s.ChainsEnd m id policy := by
  induction n generalizing m id policy with
  | zero => exact h.elim
  | succ n ih =>
      cases m with
      | zero => omega
      | succ m =>
          intro hfollows next hnext
          exact ih (h hfollows next hnext) (by omega)

theorem chainsEnd_of_length_lt (h : ∀ chain, s.JoinChain id policy chain → chain.length < n) :
    s.ChainsEnd n id policy := by
  induction n generalizing id policy with
  | zero => exact absurd (h [] .stop) (Nat.not_lt_zero _)
  | succ n ih =>
      intro hfollows next hnext
      refine ih fun chain hchain => ?_
      have hlonger := h (next :: chain) (.join hfollows (mem_successors_iff.1 hnext) hchain)
      rw [List.length_cons] at hlonger
      omega

/-- A chain of joins has at most one table more than the schema. -/
theorem chainsEnd (s : Schema) (id : TableId) (policy : FollowPolicy) :
    s.ChainsEnd (s.tables.length + 1) id policy :=
  chainsEnd_of_length_lt fun _ hchain => Nat.lt_succ_of_le hchain.length_le

/-- The bound on the recursions over a schema covers all chains, also
from behind a join. -/
theorem chainBound_eq (s : Schema) : s.chainBound = s.tables.length + 1 + 1 := rfl

/-- Induction along joins: what holds of a table under a policy whenever
it holds of the tables joined there holds of every table. -/
theorem follow_induction {motive : TableId → FollowPolicy → Prop}
    (step : ∀ id policy, ((s.effective id policy).follows = true →
      ∀ next ∈ s.successors id, motive next (s.effective id policy).next) → motive id policy)
    (id : TableId) (policy : FollowPolicy) : motive id policy := by
  -- on the longest chain from the table
  have hall : ∀ n id policy, s.ChainsEnd n id policy → motive id policy := by
    intro n
    induction n with
    | zero => intro id policy h; exact h.elim
    | succ n ih =>
        intro id policy h
        exact step id policy fun hfollows next hnext => ih next _ (h hfollows next hnext)
  exact hall _ id policy (s.chainsEnd id policy)

end Rowsmith.Schema

/-
Cycles of references. Whether a table leads into one is found by a search
in which all branches share one list of marks, and which stops at the first
table it meets again. Here the search is compared with what is looked for: a
table that can be reached and that reaches itself.

# Why the search is exact

What is active is on the way to where the search is. So a table that is met
while it is active reaches itself (`search_error`).

What is done leads into no cycle. A table that leads into a cycle refers to
one that does (`leadsToCycle_iff`), so it is enough that the search looked at
everything the table refers to and was not stopped (`search_ok`); it does not
matter in which branch. The search marks a table each time it goes down, so
it looks at everything before its bound is used up.
-/
import Mathlib.Logic.Relation
import Rowsmith.Proofs.Attempt
import Rowsmith.Schema.Follow

namespace Rowsmith.Schema

open Relation

variable {s : Schema} {bound : Nat} {id next on : TableId} {marks marks' : List Mark}

-- =========================================================== references

/-- A table refers to another through one of its fields. -/
def RefersTo (s : Schema) (id next : TableId) : Prop :=
  ∃ t, s.tables[id]? = some t ∧ ∃ f ∈ t.fields, ∃ r, f.reference? = some r ∧ r.table = next

theorem mem_successors_iff : next ∈ s.successors id ↔ s.RefersTo id next := by
  unfold successors RefersTo
  cases s.tables[id]? with
  | none => simp
  | some t =>
      simp only [Table.references, List.mem_map, List.mem_filterMap, Option.some.injEq,
        exists_eq_left']
      constructor
      · intro ⟨r, ⟨f, hf, hr⟩, hnext⟩
        exact ⟨f, hf, r, hr, hnext⟩
      · intro ⟨f, hf, r, hr, hnext⟩
        exact ⟨r, ⟨f, hf, hr⟩, hnext⟩

theorem mem_successors {t : Table} {f : TableField} {r : Reference}
    (ht : s.tables[id]? = some t) (hf : f ∈ t.fields) (hr : f.reference? = some r) :
    r.table ∈ s.successors id :=
  mem_successors_iff.2 ⟨t, ht, f, hf, r, hr, rfl⟩

/-- Only a table of the schema refers to anything. -/
theorem RefersTo.lt (h : s.RefersTo id next) : id < s.tables.length := by
  obtain ⟨t, ht, -⟩ := h
  exact (List.getElem?_eq_some_iff.1 ht).1

-- =============================================================== cycles

/-- A table leads into a cycle: along references it reaches a table, perhaps
itself, that reaches itself by at least one. -/
def LeadsToCycle (s : Schema) (id : TableId) : Prop :=
  ∃ on, ReflTransGen s.RefersTo id on ∧ TransGen s.RefersTo on on

theorem LeadsToCycle.of_reaches (hreach : ReflTransGen s.RefersTo id next)
    (h : s.LeadsToCycle next) : s.LeadsToCycle id := by
  obtain ⟨on, hon, hcycle⟩ := h
  exact ⟨on, hreach.trans hon, hcycle⟩

/-- A table leads into a cycle exactly if one that it refers to does. -/
theorem leadsToCycle_iff :
    s.LeadsToCycle id ↔ ∃ next, s.RefersTo id next ∧ s.LeadsToCycle next := by
  constructor
  · intro ⟨on, hreach, hcycle⟩
    rcases ReflTransGen.cases_head hreach with rfl | ⟨next, hnext, hreach⟩
    · -- the table is on the cycle, and so is the next one there
      obtain ⟨next, hnext, hback⟩ := TransGen.head'_iff.1 hcycle
      exact ⟨next, hnext, id, hback, hcycle⟩
    · exact ⟨next, hnext, on, hreach, hcycle⟩
  · intro ⟨next, hnext, h⟩
    exact h.of_reaches (.single hnext)

-- =============================================================== search

theorem searchWithin_eq_error :
    s.searchWithin (bound + 1) marks id = .error on ↔
      (marks[id]? = some .active ∧ on = id) ∨
        (marks[id]? = some .unseen ∧
          (s.successors id).foldlM (s.searchWithin bound) (marks.set id .active) = .error on) := by
  unfold searchWithin
  cases hmark : marks[id]? with
  | none => simp
  | some mark =>
      cases mark with
      | active => simp [eq_comm]
      | done => simp
      | unseen =>
          simp only [reduceCtorEq, Option.some.injEq, false_and, true_and, false_or]
          cases (s.successors id).foldlM (s.searchWithin bound) (marks.set id .active) with
          | error on' => exact Iff.rfl
          | ok after => exact ⟨(fun h => nomatch h), (fun h => nomatch h)⟩

/-- A search that is not stopped leaves the marks as they are, or it went on
from the table. -/
theorem searchWithin_eq_ok :
    s.searchWithin (bound + 1) marks id = .ok marks' ↔
      ((marks[id]? = none ∨ marks[id]? = some .done) ∧ marks' = marks) ∨
        (marks[id]? = some .unseen ∧ ∃ after,
          (s.successors id).foldlM (s.searchWithin bound) (marks.set id .active) = .ok after ∧
            marks' = after.set id .done) := by
  unfold searchWithin
  cases hmark : marks[id]? with
  | none => simp [eq_comm]
  | some mark =>
      cases mark with
      | active => simp
      | done => simp [eq_comm]
      | unseen =>
          simp only [reduceCtorEq, Option.some.injEq, false_or, false_and, true_and]
          rw [Attempt.bind_eq_ok]
          exact exists_congr fun after => and_congr_right fun _ =>
            Attempt.pure_eq_ok.trans eq_comm

/-- A search that is not stopped leaves active what was. -/
theorem search_active (h : s.searchWithin bound marks id = .ok marks') (a : TableId) :
    marks'[a]? = some .active ↔ marks[a]? = some .active := by
  induction bound generalizing marks marks' id with
  | zero => rw [Except.ok.inj h]
  | succ bound ih =>
      rcases searchWithin_eq_ok.1 h with ⟨-, rfl⟩ | ⟨hunseen, after, hafter, rfl⟩
      · exact Iff.rfl
      · have hkept : after[a]? = some .active ↔ (marks.set id .active)[a]? = some .active :=
          Attempt.foldlM_keeps
            (fun m => m[a]? = some .active ↔ (marks.set id .active)[a]? = some .active)
            (fun next _ m m' hm hnext => (ih hnext).trans hm) Iff.rfl hafter
        by_cases ha : id = a
        · -- the table was active only while the search was below it
          subst ha
          rw [hunseen, List.getElem?_set_self']
          cases after[id]? <;> simp
        · rw [List.getElem?_set_ne ha, hkept, List.getElem?_set_ne ha]

/-- A table that the search stops at can be reached and is on a cycle. -/
theorem search_error (h : s.searchWithin bound marks id = .error on)
    (hactive : ∀ a : TableId, marks[a]? = some .active → TransGen s.RefersTo a id) :
    ReflTransGen s.RefersTo id on ∧ TransGen s.RefersTo on on := by
  induction bound generalizing marks id with
  | zero => cases h
  | succ bound ih =>
      rcases searchWithin_eq_error.1 h with ⟨hmark, rfl⟩ | ⟨-, hfold⟩
      · exact ⟨.refl, hactive on hmark⟩
      · obtain ⟨before, next, after, marks', hsplit, hbefore, hnext⟩ :=
          Attempt.foldlM_eq_error_iff.1 hfold
        have hrefers : s.RefersTo id next := by
          rw [← mem_successors_iff, hsplit]
          simp
        -- what is active below the table is what was, and the table itself
        have hactive' : ∀ a : TableId, marks'[a]? = some .active → TransGen s.RefersTo a next := by
          intro a ha
          have hkept : marks'[a]? = some .active ↔ (marks.set id .active)[a]? = some .active :=
            Attempt.foldlM_keeps
              (fun m => m[a]? = some .active ↔ (marks.set id .active)[a]? = some .active)
              (fun next _ m m' hm hstep => (search_active hstep a).trans hm) Iff.rfl hbefore
          rw [hkept] at ha
          by_cases hid : id = a
          · subst hid
            exact .single hrefers
          · rw [List.getElem?_set_ne hid] at ha
            exact (hactive a ha).tail hrefers
        obtain ⟨hreach, hcycle⟩ := ih hnext hactive'
        exact ⟨hreach.head hrefers, hcycle⟩

/-- What the marks promise: there is one for each table, and what is done
leads into no cycle. -/
structure Cleared (s : Schema) (marks : List Mark) : Prop where
  length : marks.length = s.tables.length
  done : ∀ a : TableId, marks[a]? = some .done → ¬s.LeadsToCycle a

theorem Cleared.set (h : s.Cleared marks) {mark : Mark}
    (hmark : mark = .done → ¬s.LeadsToCycle id) : s.Cleared (marks.set id mark) := by
  refine ⟨by rw [List.length_set, h.length], fun a ha => ?_⟩
  by_cases hid : id = a
  · subst hid
    rw [List.getElem?_set_self'] at ha
    obtain ⟨_, -, rfl⟩ := Option.map_eq_some_iff.1 ha
    exact hmark rfl
  · rw [List.getElem?_set_ne hid] at ha
    exact h.done a ha

/-- Marking a table that was not seen leaves one fewer that was not. -/
theorem count_set_active (h : marks[id]? = some .unseen) :
    (marks.set id .active).count .unseen + 1 = marks.count .unseen := by
  obtain ⟨hlt, hmark⟩ := List.getElem?_eq_some_iff.1 h
  have hpos : 0 < marks.count .unseen := List.count_pos_iff.2 (List.mem_of_getElem? h)
  rw [List.count_set hlt, hmark]
  simp only [beq_self_eq_true, if_true, reduceCtorEq, beq_iff_eq, if_false]
  omega

theorem count_set_done : (marks.set id .done).count .unseen ≤ marks.count .unseen := by
  rcases Nat.lt_or_ge id marks.length with hlt | hge
  · simp [List.count_set hlt]
  · simp [List.set_eq_of_length_le hge]

/-- What a search that was not stopped has done with the tables it was given:
none of them leads into a cycle, which the marks now say, and no more tables
are unseen than before. -/
structure Searched (s : Schema) (marks marks' : List Mark) (ids : List TableId) : Prop where
  cleared : s.Cleared marks'
  count : marks'.count .unseen ≤ marks.count .unseen
  clear : ∀ id ∈ ids, ¬s.LeadsToCycle id

/-- The branches of a search go on from the marks of those before. -/
theorem search_branches {branches : List TableId}
    (hstep : ∀ (marks marks' : List Mark) (id : TableId),
      s.searchWithin bound marks id = .ok marks' → s.Cleared marks →
        marks.count .unseen < bound → s.Searched marks marks' [id])
    (hmarks : s.Cleared marks) (hbound : marks.count .unseen < bound)
    (h : branches.foldlM (s.searchWithin bound) marks = .ok marks') :
    s.Searched marks marks' branches := by
  induction branches generalizing marks with
  | nil =>
      obtain rfl := Except.ok.inj h
      exact ⟨hmarks, Nat.le_refl _, fun _ hnext => nomatch hnext⟩
  | cons next rest ih =>
      rw [List.foldlM_cons] at h
      obtain ⟨middle, hnext, hrest⟩ := Attempt.bind_eq_ok.1 h
      have hone := hstep _ _ _ hnext hmarks hbound
      have hothers := ih hone.cleared (Nat.lt_of_le_of_lt hone.count hbound) hrest
      exact ⟨hothers.cleared, Nat.le_trans hothers.count hone.count,
        List.forall_mem_cons.2 ⟨hone.clear next (List.mem_singleton_self next), hothers.clear⟩⟩

/-- From a table that the search comes through, no cycle is reached. -/
theorem search_ok (h : s.searchWithin bound marks id = .ok marks') (hmarks : s.Cleared marks)
    (hbound : marks.count .unseen < bound) : s.Searched marks marks' [id] := by
  induction bound generalizing marks marks' id with
  | zero => cases hbound
  | succ bound ih =>
      rcases searchWithin_eq_ok.1 h with ⟨hmark, rfl⟩ | ⟨hunseen, after, hafter, rfl⟩
      · refine ⟨hmarks, Nat.le_refl _, List.forall_mem_singleton.2 ?_⟩
        rcases hmark with hnone | hdone
        · -- there is no such table, and nothing that it refers to
          intro hcycle
          obtain ⟨next, hrefers, -⟩ := leadsToCycle_iff.1 hcycle
          have hlt := hmarks.length ▸ hrefers.lt
          exact absurd hlt (Nat.not_lt.2 (List.getElem?_eq_none_iff.1 hnone))
        · exact hmarks.done id hdone
      · have hcount := count_set_active hunseen
        have hactive : s.Cleared (marks.set id .active) := hmarks.set fun hdone => nomatch hdone
        have hbelow := search_branches (fun _ _ _ hnext hm hlt => ih hnext hm hlt) hactive
          (by omega) hafter
        have hclear : ¬s.LeadsToCycle id := by
          intro hcycle
          obtain ⟨next, hrefers, hnext⟩ := leadsToCycle_iff.1 hcycle
          exact hbelow.clear next (mem_successors_iff.2 hrefers) hnext
        refine ⟨hbelow.cleared.set fun _ => hclear, ?_, List.forall_mem_singleton.2 hclear⟩
        have hdone := @count_set_done id after
        have hle := hbelow.count
        omega

-- =============================================================== result

/-- The search finds a cycle exactly if the table leads into one. -/
theorem reachesCycle_iff : s.reachesCycle id = true ↔ s.LeadsToCycle id := by
  unfold reachesCycle
  cases hsearch : s.searchWithin (s.tables.length + 1)
    (List.replicate s.tables.length .unseen) id with
  | error on =>
      refine ⟨fun _ => ?_, fun _ => rfl⟩
      refine ⟨on, search_error hsearch fun a ha => ?_⟩
      rw [List.getElem?_replicate] at ha
      split at ha <;> cases ha
  | ok marks' =>
      have hstart : s.Cleared (List.replicate s.tables.length .unseen) := by
        refine ⟨List.length_replicate, fun a ha => ?_⟩
        rw [List.getElem?_replicate] at ha
        split at ha <;> cases ha
      have hsearched := search_ok hsearch hstart
        (by rw [List.count_replicate_self]; exact Nat.lt_succ_self _)
      refine ⟨(fun h => nomatch h), fun h => absurd h ?_⟩
      exact hsearched.clear id (List.mem_singleton_self id)

theorem reachesCycle_eq_false_iff : s.reachesCycle id = false ↔ ¬s.LeadsToCycle id := by
  rw [← reachesCycle_iff, Bool.not_eq_true]

/-- No cycle is found where all references go down in rank, however many of
them lead to one table. -/
theorem not_leadsToCycle_of_rank {rank : TableId → Nat}
    (hrank : ∀ id next, s.RefersTo id next → rank next < rank id) : ¬s.LeadsToCycle id := by
  have hdown : ∀ {id on}, TransGen s.RefersTo id on → rank on < rank id := by
    intro id on h
    induction h with
    | single hrefers => exact hrank _ _ hrefers
    | tail _ hrefers ih => exact Nat.lt_trans (hrank _ _ hrefers) ih
  intro ⟨on, _, hcycle⟩
  exact Nat.lt_irrefl _ (hdown hcycle)

/-- Cycle detection is exact. A table is said to reach a cycle if and only if
some table reached from it by references, of which there may be none, is
reached from itself by at least one. So every table that leads to such a table
is said to reach one, and no table is where the references have a direction,
even if several lead to the same table. -/
theorem cycles_found (s : Schema) :
    (∀ id, s.reachesCycle id = true ↔
      ∃ on, ReflTransGen s.RefersTo id on ∧ TransGen s.RefersTo on on) ∧
    (∀ id next, ReflTransGen s.RefersTo id next → s.reachesCycle next = true →
      s.reachesCycle id = true) ∧
    (∀ rank : TableId → Nat, (∀ id next, s.RefersTo id next → rank next < rank id) →
      ∀ id, s.reachesCycle id = false) := by
  refine ⟨fun id => reachesCycle_iff, fun id next hreach hnext => ?_, fun rank hrank id => ?_⟩
  · exact reachesCycle_iff.2 ((reachesCycle_iff.1 hnext).of_reaches hreach)
  · exact reachesCycle_eq_false_iff.2 (not_leadsToCycle_of_rank hrank)

/-- A table that refers to others by integers. -/
def linkedTable (id : TableId) (targets : List TableId) : Table where
  id := id
  name := "t" ++ toString id
  accessor := "T" ++ toString id
  model := .named ("T" ++ toString id)
  bridge := none
  fields := targets.map fun target =>
    { name := "to" ++ toString target
      type := .generic "ForeignInt" [.named ("T" ++ toString target)]
      columns := [⟨"to" ++ toString target, .int⟩]
      primaryKey := false, unique := false, nullable := false, defaults := []
      kind := .reference ⟨target, .int, .named "i32", .int⟩ }

/-- Two ways lead from the first table to the last. -/
def diamond : Schema :=
  ⟨[linkedTable 0 [1, 2], linkedTable 1 [3], linkedTable 2 [3], linkedTable 3 []], [], []⟩

/-- The first table leads to one that refers to itself. -/
def lasso : Schema := ⟨[linkedTable 0 [1], linkedTable 1 [1]], [], []⟩

/-- Shared references make no cycle, and a table that is on no cycle itself
may lead into one. -/
theorem cycles_found_diamond : diamond.reachesCycle 0 = false ∧ lasso.reachesCycle 0 = true := by
  have hall : ∀ id < 4, ∀ next ∈ diamond.successors id, 4 - next < 4 - id := by decide
  have hdown : ∀ id next, diamond.RefersTo id next → 4 - next < 4 - id :=
    fun id next h => hall id h.lt next (mem_successors_iff.2 h)
  have hto : lasso.RefersTo 0 1 := mem_successors_iff.1 (by decide)
  have hself : lasso.RefersTo 1 1 := mem_successors_iff.1 (by decide)
  obtain ⟨-, -, hdirected⟩ := cycles_found diamond
  obtain ⟨hexact, -, -⟩ := cycles_found lasso
  exact ⟨hdirected (4 - ·) hdown 0, (hexact 0).2 ⟨1, .single hto, .single hself⟩⟩

end Rowsmith.Schema

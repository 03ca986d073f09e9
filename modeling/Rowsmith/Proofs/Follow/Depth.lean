/-
Deeper policies only add. A table may be read under a shallow policy or a
deep one, and whoever asks for more gets all that there was before, in the
same order: the same columns with others between them, and the same joins
with others between them.

The two statements cannot be compared as they are. How a joined table is
named depends on how many were joined before it, so a join that is there
under both policies may go by different names. What is compared is where a
column stands and what a join links (`Join.link`).

# Why nothing gets lost

At a table both walks meet the same fields. Behind a join the policies that
are left are still in order (`FollowPolicy.next_mono`), and so are those that
are applied, for the deepest policy gives way to nothing shallower than
following one level (`effective_mono`). So the induction along the shallow
walk goes through at every depth (`Selects.adds`).

A table that reaches a cycle is read under the deepest policy just as it is
one level deep, since a walk depends on its policy only through the one that
is applied (`walk_congr`).
-/
import Rowsmith.Proofs.Follow.Blocks

namespace Rowsmith

-- ============================================================= policies

namespace FollowPolicy

/-- How deep a policy goes. -/
def depth : FollowPolicy → Nat
  | .keys => 0
  | .oneLevel => 1
  | .all => 2

variable {policy policy' : FollowPolicy}

theorem next_mono (h : policy.depth ≤ policy'.depth) : policy.next.depth ≤ policy'.next.depth := by
  cases policy <;> cases policy' <;> simp_all [depth, next]

theorem follows_mono (h : policy.depth ≤ policy'.depth) (hfollows : policy.follows = true) :
    policy'.follows = true := by
  cases policy <;> cases policy' <;> simp_all [depth, follows]

end FollowPolicy

/-- What a join links: the table that refers, its column, and the table it
refers to. -/
def Join.link (j : Join) : Table × Column × Table := (j.source, j.column, j.target)

namespace Schema

variable {s : Schema} {t : Table} {id : TableId} {name name' : String}
  {policy policy' applied applied' : FollowPolicy} {fields : List TableField}
  {joins joins' : List Join} {columns columns' : List ColumnRef}

theorem effective_mono (h : policy.depth ≤ policy'.depth) :
    (s.effective id policy).depth ≤ (s.effective id policy').depth := by
  unfold effective
  cases policy <;> cases policy' <;> cases s.reachesCycle id <;>
    simp_all [FollowPolicy.depth]

-- ================================================================= walk

/-- Whatever is selected for fields under a policy is also selected under a
deeper one, and whatever is joined is also joined. -/
theorem Selects.adds (h : s.Selects t name applied fields joins columns)
    (h' : s.Selects t name' applied' fields joins' columns')
    (hdepth : applied.depth ≤ applied'.depth) :
    (columns.map (·.column)).Sublist (columns'.map (·.column)) ∧
      (joins.map Join.link).Sublist (joins'.map Join.link) := by
  induction h generalizing name' applied' joins' columns' with
  | done =>
      cases h'
      exact ⟨.slnil, .slnil⟩
  | own _ _ ih =>
      cases h' with
      | own _ next' =>
          obtain ⟨hcolumns, hjoins⟩ := ih next' hdepth
          refine ⟨?_, hjoins⟩
          rw [List.map_append, List.map_append, List.map_map, List.map_map]
          exact hcolumns.append_left _
      | joined _ _ _ _ column _ _ _ next' =>
          -- only the deeper policy follows the reference
          obtain ⟨hcolumns, hjoins⟩ := ih next' hdepth
          rw [column]
          simp only [List.map_cons, List.map_append]
          exact ⟨(hcolumns.trans (List.sublist_append_right ..)).cons_cons _,
            (hjoins.trans (List.sublist_append_right ..)).cons _⟩
  | @joined _ _ _ _ r j _ _ _ _ _ refers follows source _ column target _ _ _ ihInner ih =>
      cases h' with
      | own shallow' =>
          rcases shallow' with hnone | hkeys
          · rw [refers] at hnone
            cases hnone
          · rw [FollowPolicy.follows_mono hdepth follows] at hkeys
            cases hkeys
      | @joined _ _ _ _ r' j' _ _ _ _ _ refers' _ source' _ column' target' _ inner' next' =>
          obtain rfl := Option.some.inj (refers.symm.trans refers')
          have htarget : j'.target = j.target := Option.some.inj (target'.symm.trans target)
          have hcolumn : j.column = j'.column := by simpa using column.symm.trans column'
          have hlink : j.link = j'.link := by
            unfold Join.link
            rw [source, source', hcolumn, htarget]
          rw [htarget] at inner'
          obtain ⟨hblock, hdeeper⟩ :=
            ihInner inner' (effective_mono (FollowPolicy.next_mono hdepth))
          obtain ⟨hcolumns, hjoins⟩ := ih next' hdepth
          simp only [List.map_cons, List.map_append]
          rw [hlink]
          have href : j.sourceRef.column = j'.sourceRef.column := hcolumn
          rw [href]
          exact ⟨(hblock.append hcolumns).cons_cons _, (hdeeper.append hjoins).cons_cons _⟩

/-- A walk depends on its policy only through the one that is applied. -/
theorem walk_congr (h : s.effective t.id policy = s.effective t.id policy') :
    s.walk t policy = s.walk t policy' := by
  unfold walk
  rw [chainBound_eq]
  unfold visitTable
  rw [h]

theorem selectColumns_congr (h : s.effective t.id policy = s.effective t.id policy') :
    s.selectColumns t policy = s.selectColumns t policy' := by
  unfold selectColumns
  rw [h, walk_congr h]

theorem joins_congr (h : s.effective t.id policy = s.effective t.id policy') :
    s.joins t policy = s.joins t policy' := by
  unfold joins
  rw [walk_congr h]

-- ================================================================ result

/-- The select list and the joins of a table under a policy are those of a
walk. -/
theorem selected_of_walk (hs : s.WellFormed) (ht : t ∈ s.tables) (policy : FollowPolicy) :
    ∃ listed columns joins, s.selectColumns t policy = .ok listed ∧ s.joins t policy = .ok joins ∧
      s.Selects t t.name (s.effective t.id policy) t.fields joins columns ∧
      columns.map (·.column) = listed.map (·.column) := by
  obtain ⟨w, hw, hselects, -⟩ := walk_ok hs ht policy
  obtain ⟨listed, hlisted, hsame⟩ := hselects.sameAsList hs ht
  exact ⟨listed, w.columns, w.joins, hlisted, Attempt.bind_eq_ok.2 ⟨w, hw, rfl⟩, hselects, hsame⟩

/-- Deeper policies only add. For every table of a resolved schema, whatever
is selected under a policy is also selected under a deeper one, in the same
order if the names of tables are left aside, and whatever is joined is also
joined. And for a table that reaches a cycle there is one statement for the
two policies that follow references, text for text. -/
theorem deeper_adds {room : Nat}
    {answers : List TypeExpr → TypeExpr → Except Failure (List FieldDecl)} {locator : Locator}
    {request : Request} (h : resolveWithin room answers locator request = .ok s)
    (ht : t ∈ s.tables) :
    (∀ policy policy' : FollowPolicy, policy.depth ≤ policy'.depth →
      ∃ columns joins columns' joins',
        s.selectColumns t policy = .ok columns ∧ s.joins t policy = .ok joins ∧
        s.selectColumns t policy' = .ok columns' ∧ s.joins t policy' = .ok joins' ∧
        (columns.map (·.column)).Sublist (columns'.map (·.column)) ∧
        (joins.map Join.link).Sublist (joins'.map Join.link)) ∧
    (s.reachesCycle t.id = true → ∀ flavor, ∃ lines,
      Sql.clauses s flavor (.select t.id .all) = .ok lines ∧
      Sql.clauses s flavor (.select t.id .oneLevel) = .ok lines ∧
      Sql.render s flavor (.select t.id .all) = Sql.render s flavor (.select t.id .oneLevel)) := by
  have hs := wellFormed_of_resolveWithin h
  constructor
  · intro policy policy' hdepth
    obtain ⟨listed, columns, joins, hlisted, hjoins, hselects, hsame⟩ :=
      selected_of_walk hs ht policy
    obtain ⟨listed', columns', joins', hlisted', hjoins', hselects', hsame'⟩ :=
      selected_of_walk hs ht policy'
    obtain ⟨hadds, hlinks⟩ := hselects.adds hselects' (effective_mono hdepth)
    rw [hsame, hsame'] at hadds
    exact ⟨listed, joins, listed', joins', hlisted, hjoins, hlisted', hjoins', hadds, hlinks⟩
  · intro hcycle flavor
    have hsame : s.effective t.id .all = s.effective t.id .oneLevel := by
      unfold effective
      rw [if_pos ⟨rfl, hcycle⟩, if_neg (by simp)]
    obtain ⟨listed, -, joins, hlisted, hjoins, -⟩ := selected_of_walk hs ht .oneLevel
    have hone := Sql.select_clauses flavor (hs.table ht) hlisted hjoins
    have hall := Sql.select_clauses flavor (hs.table ht)
      ((selectColumns_congr hsame).trans hlisted) ((joins_congr hsame).trans hjoins)
    refine ⟨_, hall, hone, ?_⟩
    unfold Sql.render
    rw [hall, hone]

/-- A review selects seven columns one level deep and eleven all the way; and
of two models that refer to each other, there is one statement for both. -/
theorem deeper_adds_review :
    (∃ s t columns columns', resolve Sql.reviewCatalog.describer Registry.empty.locator
        Sql.reviewRequest = .ok s ∧ t ∈ s.tables ∧ s.selectColumns t .oneLevel = .ok columns ∧
      s.selectColumns t .all = .ok columns' ∧ columns.length = 7 ∧ columns'.length = 11 ∧
      (columns.map (·.column)).Sublist (columns'.map (·.column))) ∧
    ∃ s t lines, resolve mutualDescriber Registry.empty.locator mutualRequest = .ok s ∧
      t ∈ s.tables ∧ s.reachesCycle t.id = true ∧
      Sql.clauses s .sqlite (.select t.id .all) = .ok lines ∧
      Sql.clauses s .sqlite (.select t.id .oneLevel) = .ok lines := by
  constructor
  · have hfound : ((resolve Sql.reviewCatalog.describer Registry.empty.locator
        Sql.reviewRequest).toOption.bind fun s => s.tables.find? fun t =>
          (s.selectColumns t .oneLevel).toOption.map List.length == some 7 &&
            (s.selectColumns t .all).toOption.map List.length == some 11).isSome = true := by
      decide +kernel
    obtain ⟨t, hfound⟩ := Option.isSome_iff_exists.1 hfound
    obtain ⟨s, hs, hfind⟩ := Option.bind_eq_some_iff.1 hfound
    have ht := List.mem_of_find?_eq_some hfind
    have hreview := List.find?_some hfind
    obtain ⟨hone, hall⟩ := Bool.and_eq_true_iff.1 hreview
    obtain ⟨columns, -, columns', -, hcolumns, -, hcolumns', -, hadds, -⟩ :=
      (deeper_adds (Attempt.toOption_eq_some.1 hs) ht).1 .oneLevel .all (by decide)
    rw [hcolumns] at hone
    rw [hcolumns'] at hall
    exact ⟨s, t, columns, columns', Attempt.toOption_eq_some.1 hs, ht, hcolumns, hcolumns',
      by simpa [Except.toOption] using hone, by simpa [Except.toOption] using hall, hadds⟩
  · have hfound : ((resolve mutualDescriber Registry.empty.locator mutualRequest).toOption.bind
        fun s => s.tables.find? fun t => s.reachesCycle t.id).isSome = true := by
      decide +kernel
    obtain ⟨t, hfound⟩ := Option.isSome_iff_exists.1 hfound
    obtain ⟨s, hs, hfind⟩ := Option.bind_eq_some_iff.1 hfound
    have ht := List.mem_of_find?_eq_some hfind
    have hcycle : s.reachesCycle t.id = true := by simpa using List.find?_some hfind
    obtain ⟨lines, hall, hone, -⟩ :=
      (deeper_adds (Attempt.toOption_eq_some.1 hs) ht).2 hcycle .sqlite
    exact ⟨s, t, lines, Attempt.toOption_eq_some.1 hs, ht, hcycle, hall, hone⟩

end Schema

end Rowsmith

/-
By which names the tables of a statement go, and when they are distinct.

A table that is brought into a statement for the first time goes by its
own name, and the `n`-th time by that name with `_n` added. So the names
of a statement are those of its occurrences (`occurrences`): every table
name with the number of its occurrence, no two of which are the same
(`nodup_occurrences`). Two different occurrences can go by one name only
if one of them is the first of its name and happens to be called as the
other is renamed, since what a number was added to can be told from the
result (`numbered_injective`). Nothing looks out for that, and so the
names are distinct exactly if no table of the statement has such a name
(`names_nodup_iff`).
-/
import Rowsmith.Proofs.Sql.Select
import Mathlib.Data.List.Nodup

namespace Rowsmith

namespace Walk

-- =============================================================== labels

/-- The name by which the `n`-th occurrence of a table name goes. -/
def label (name : String) (n : Nat) : String := (aliasFor name n).getD name

theorem label_one (name : String) : label name 1 = name := rfl

theorem label_of_one_lt (name : String) {n : Nat} (h : 1 < n) :
    label name n = name ++ "_" ++ toString n := by
  unfold label aliasFor
  rw [if_pos h]
  rfl

theorem underscore_notMem_digits (n : Nat) : '_' ∉ (toString n).toList := by
  intro h
  rw [Nat.toString_eq_repr, Nat.toList_repr] at h
  have hdigit := Nat.isDigit_of_mem_toDigits (by decide) (by decide) h
  revert hdigit
  decide

/-- A name to which a number was added can be told from the result, and so
can the number. -/
theorem numbered_injective {name name' : String} {n n' : Nat}
    (h : name ++ "_" ++ toString n = name' ++ "_" ++ toString n') : name = name' ∧ n = n' := by
  have hchars : name.toList ++ '_' :: (toString n).toList =
      name'.toList ++ '_' :: (toString n').toList := by
    simpa using congrArg String.toList h
  -- the last underscore ends the name
  rcases split_of_append_eq hchars with ⟨middle, -, hdigits⟩ | ⟨middle, hname, hdigits⟩
  · refine absurd ?_ (underscore_notMem_digits n')
    rw [hdigits]
    exact List.mem_append_right _ List.mem_cons_self
  · cases middle with
    | nil =>
        rw [List.append_nil] at hname
        have hnumber := congrArg (Nat.ofDigitChars 10 · 0) (List.cons.inj hdigits).2
        exact ⟨String.ext hname.symm, by simpa using hnumber⟩
    | cons c middle =>
        refine absurd ?_ (underscore_notMem_digits n)
        rw [(List.cons.inj hdigits).2]
        exact List.mem_append_right _ List.mem_cons_self

-- ========================================================== occurrences

/-- Names with the number of their occurrence, counted after those that
were taken before. -/
def occurrences : List String → List String → List (String × Nat)
  | _, [] => []
  | taken, name :: rest => (name, taken.count name + 1) :: occurrences (taken ++ [name]) rest

theorem mem_occurrences {taken names : List String} {name : String} {n : Nat} :
    (name, n) ∈ occurrences taken names ↔
      taken.count name < n ∧ n ≤ taken.count name + names.count name := by
  induction names generalizing taken with
  | nil => simp [occurrences]
  | cons other names ih =>
      unfold occurrences
      rw [List.mem_cons, ih, Prod.mk.injEq, List.count_append, List.count_singleton,
        List.count_cons]
      by_cases hname : other = name
      · subst hname
        simp only [beq_self_eq_true, if_true, true_and]
        omega
      · simp only [beq_iff_eq, hname, Ne.symm hname, if_false, false_and, false_or]
        omega

/-- No name occurs twice with the same number. -/
theorem nodup_occurrences (taken names : List String) : (occurrences taken names).Nodup := by
  induction names generalizing taken with
  | nil => exact .nil
  | cons name names ih =>
      refine List.nodup_cons.2 ⟨fun hmem => ?_, ih _⟩
      have hlater := (mem_occurrences.1 hmem).1
      rw [List.count_append, List.count_singleton_self] at hlater
      omega

/-- No name of the list is one that another gets when it occurs in the
list once more. -/
def AliasesFree (names : List String) : Prop :=
  ∀ name n, 1 < n → n ≤ names.count name → name ++ "_" ++ toString n ∉ names

theorem label_injective_iff {names : List String} :
    (∀ o ∈ occurrences [] names, ∀ o' ∈ occurrences [] names,
      label o.1 o.2 = label o'.1 o'.2 → o = o') ↔ AliasesFree names := by
  constructor
  · -- a name that is an alias is the label of its own first occurrence too
    intro h name n hn hcount hmem
    have hfirst : (name ++ "_" ++ toString n, 1) ∈ occurrences [] names := by
      rw [mem_occurrences, List.count_nil]
      have := List.count_pos_iff.2 hmem
      omega
    have hlater : (name, n) ∈ occurrences [] names := by
      rw [mem_occurrences, List.count_nil]
      omega
    have hsame := h _ hlater _ hfirst (by rw [label_of_one_lt name hn, label_one])
    have hone : n = 1 := (Prod.mk.inj hsame).2
    omega
  · intro h ⟨name, n⟩ hmem ⟨name', n'⟩ hmem' hlabel
    have hclash : ∀ {name name' : String} {n : Nat}, (name, n) ∈ occurrences [] names →
        (name', 1) ∈ occurrences [] names → 1 < n → name ++ "_" ++ toString n ≠ name' := by
      intro name name' n hlater hfirst hn hname
      rw [mem_occurrences, List.count_nil] at hlater hfirst
      refine h name n hn (by omega) ?_
      rw [hname]
      exact List.count_pos_iff.1 (by omega)
    have hpos := (mem_occurrences.1 hmem).1
    have hpos' := (mem_occurrences.1 hmem').1
    rw [List.count_nil] at hpos hpos'
    -- two occurrences are both the first of their names, both later ones, or
    -- one of each
    rcases Nat.lt_or_eq_of_le hpos with hn | rfl <;> rcases Nat.lt_or_eq_of_le hpos' with hn' | rfl
    · rw [label_of_one_lt name hn, label_of_one_lt name' hn'] at hlabel
      obtain ⟨rfl, rfl⟩ := numbered_injective hlabel
      rfl
    · rw [label_of_one_lt name hn] at hlabel
      exact absurd hlabel (hclash hmem hmem' hn)
    · rw [label_of_one_lt name' hn'] at hlabel
      exact absurd hlabel.symm (hclash hmem' hmem hn')
    · rw [show name = name' from hlabel]

/-- The names of occurrences are distinct exactly if no alias is taken. -/
theorem nodup_labels_iff (names : List String) :
    ((occurrences [] names).map fun o => label o.1 o.2).Nodup ↔ AliasesFree names := by
  rw [List.nodup_map_iff_inj_on (nodup_occurrences [] names)]
  exact label_injective_iff

/-- Joins go by the names of their occurrences. -/
theorem targetNames_eq {taken : List String} {joins : List Join} (h : Numbered taken joins) :
    joins.map Join.targetName =
      (occurrences taken (joins.map (·.target.name))).map fun o => label o.1 o.2 := by
  induction joins generalizing taken with
  | nil => rfl
  | cons j joins ih =>
      obtain ⟨hrename, hrest⟩ := h
      rw [List.map_cons, List.map_cons, occurrences, List.map_cons, ih hrest, Join.targetName,
        hrename]
      rfl

end Walk

/-- If names are distinct, what goes by one of them is a single one. -/
theorem filter_eq_singleton {α : Type} {named : List (String × α)}
    (hnodup : (named.map Prod.fst).Nodup) {name : String} {a : α} (h : (name, a) ∈ named) :
    named.filter (·.1 == name) = [(name, a)] := by
  induction named with
  | nil => cases h
  | cons i named ih =>
      obtain ⟨hfirst, hrest⟩ := List.nodup_cons.1 hnodup
      rcases List.mem_cons.1 h with rfl | h
      · have hnone : named.filter (·.1 == name) = [] := by
          refine List.filter_eq_nil_iff.2 fun i hi hname => hfirst ?_
          exact List.mem_map.2 ⟨i, hi, beq_iff_eq.1 hname⟩
        rw [List.filter_cons_of_pos (by simp), hnone]
      · have hname : i.1 ≠ name := by
          rintro rfl
          exact hfirst (List.mem_map.2 ⟨_, h, rfl⟩)
        rw [List.filter_cons_of_neg (by simpa using hname), ih hrest h]

/-- The column a reference points at is one of the referenced table. -/
theorem Schema.mem_columns_of_keyColumn {s : Schema} {r : Reference} {target : Table} {c : Column}
    (htarget : s.tables[r.table]? = some target) (hc : s.keyColumn r = .ok c) :
    c ∈ target.columns := by
  obtain ⟨t, ht, hc⟩ := Attempt.bind_eq_ok.1 hc
  obtain rfl := Option.some.inj ((table_eq_ok.1 ht).symm.trans htarget)
  cases hkey : t.primaryKey? with
  | none =>
      rw [hkey] at hc
      cases hc
  | some key =>
      rw [hkey] at hc
      exact Table.mem_columns_of_primaryKey? hkey (TableField.column_eq_ok.1 hc)

namespace Sql

variable {s : Schema} {t : Table} {policy : FollowPolicy} {joins : List Join}

-- =========================================================== statements

/-- The tables of a statement, each under the name it goes by there: its
own table and the joined ones. -/
def instances (t : Table) (joins : List Join) : List (String × Table) :=
  (t.name, t) :: joins.map fun j => (j.targetName, j.target)

/-- The own names of the tables of a statement. -/
def ownNames (t : Table) (joins : List Join) : List String := t.name :: joins.map (·.target.name)

theorem instanceNames_eq (h : Numbered [t.name] joins) :
    (instances t joins).map Prod.fst =
      (Walk.occurrences [] (ownNames t joins)).map fun o => Walk.label o.1 o.2 := by
  unfold instances ownNames
  rw [List.map_cons, List.map_map, Walk.occurrences, List.map_cons, List.nil_append,
    ← Walk.targetNames_eq h]
  rfl

/-- The columns a statement names: those it selects, and those its joins
compare. -/
def namedColumns (joins : List Join) (columns : List ColumnRef) : List ColumnRef :=
  columns ++ joins.flatMap fun j => [j.sourceRef, j.targetRef]

theorem joined_mem_instances (t : Table) {j : Join} (hj : j ∈ joins) :
    (j.targetName, j.target) ∈ instances t joins :=
  List.mem_cons_of_mem _ (List.mem_map_of_mem (f := fun j => (Join.targetName j, j.target)) hj)

/-- The source of a join is a table of the statement, under the name the
join uses. -/
theorem source_mem_instances {before after : List Join} {j : Join} {columns : List ColumnRef}
    (h : s.JoinPlaced t t.name columns before j after) :
    (j.sourceName, j.source) ∈ instances t (before ++ j :: after) := by
  rcases h.sourceInScope with ⟨hsource, hname⟩ | ⟨j', hj', hsource, hname⟩
  · rw [hsource, hname]
    exact List.mem_cons_self
  · rw [← hsource, ← hname]
    exact joined_mem_instances t (List.mem_append_left _ hj')

/-- Every column a statement names is one of a table of the statement,
qualified by a name of that table. -/
theorem exists_owner {columns : List ColumnRef} (hwell : s.SelectsWell t joins columns)
    {ref : ColumnRef} (href : ref ∈ namedColumns joins columns) :
    ∃ name owner, ref.qualifier = some name ∧ (name, owner) ∈ instances t joins ∧
      ref.column ∈ owner.columns := by
  rcases List.mem_append.1 href with href | href
  · rcases hwell.inScope ref href with ⟨hname, hcolumn⟩ | ⟨j, hj, hname, hcolumn⟩
    · exact ⟨t.name, t, hname, List.mem_cons_self, hcolumn⟩
    · exact ⟨j.targetName, j.target, hname, joined_mem_instances t hj, hcolumn⟩
  · obtain ⟨j, hj, href⟩ := List.mem_flatMap.1 href
    obtain ⟨before, after, hsplit⟩ := List.append_of_mem hj
    have hplaced := hwell.placed before j after hsplit
    obtain ⟨f, hf, r, hr, hcolumn, htarget, hkey⟩ := hplaced.follows
    rcases List.mem_pair.1 href with rfl | rfl
    · refine ⟨j.sourceName, j.source, rfl, ?_, List.mem_flatMap.2 ⟨f, hf, ?_⟩⟩
      · rw [hsplit]
        exact source_mem_instances hplaced
      · rw [hcolumn]
        exact List.mem_singleton_self j.column
    · refine ⟨j.targetName, j.target, rfl, joined_mem_instances t hj, ?_⟩
      exact Schema.mem_columns_of_keyColumn htarget hkey

/-- The tables of a statement go by distinct names exactly if none of
them is called as another is renamed. For every table of a resolved
schema and every policy there are columns and joins to make a statement
of. The names its tables go by in it, the bare names and the aliases, are
pairwise distinct if and only if no own name of a table in it is the
alias that a table in it is given for coming more than once; and if they
are, then every qualified column that is selected or compared by a join
names exactly one table, which has that column. -/
theorem names_nodup_iff {room : Nat}
    {answers : List TypeExpr → TypeExpr → Except Failure (List FieldDecl)} {locator : Locator}
    {request : Request} (hs : resolveWithin room answers locator request = .ok s)
    (ht : t ∈ s.tables) (policy : FollowPolicy) :
    ∃ columns joins, s.selectColumns t policy = .ok columns ∧ s.joins t policy = .ok joins ∧
      (((instances t joins).map Prod.fst).Nodup ↔ Walk.AliasesFree (ownNames t joins)) ∧
      (Walk.AliasesFree (ownNames t joins) → ∀ ref ∈ namedColumns joins columns, ∀ name,
        ref.qualifier = some name → ∃ owner,
          (instances t joins).filter (·.1 == name) = [(name, owner)] ∧
            ref.column ∈ owner.columns) := by
  obtain ⟨columns, joins, hcolumns, hjoins, hnumbered, hkeys, hdeep⟩ :=
    Schema.selectColumns_joins_ok (wellFormed_of_resolveWithin hs) ht policy
  have hiff : ((instances t joins).map Prod.fst).Nodup ↔ Walk.AliasesFree (ownNames t joins) := by
    rw [instanceNames_eq hnumbered]
    exact Walk.nodup_labels_iff _
  refine ⟨columns, joins, hcolumns, hjoins, hiff, fun hfree ref href name hname => ?_⟩
  by_cases hpolicy : policy = .keys
  · -- nothing is qualified
    obtain ⟨rfl, rfl⟩ := hkeys hpolicy
    obtain ⟨c, -, rfl⟩ := List.mem_map.1 (by simpa [namedColumns] using href)
    cases hname
  · obtain ⟨name', owner, hname', howner, hcolumn⟩ := exists_owner (hdeep hpolicy) href
    obtain rfl := Option.some.inj (hname'.symm.trans hname)
    exact ⟨owner, filter_eq_singleton (hiff.2 hfree) howner, hcolumn⟩

/-- The five tables that a review is selected with go by five names, of
which two are aliases, and every column names one table. -/
theorem names_nodup_review :
    ∃ s t columns joins, resolve reviewCatalog.describer Registry.empty.locator reviewRequest =
        .ok s ∧ t ∈ s.tables ∧ s.selectColumns t .all = .ok columns ∧ s.joins t .all = .ok joins ∧
      (instances t joins).map Prod.fst = ["review", "song", "user", "song_2", "user_2"] ∧
      ∀ ref ∈ namedColumns joins columns, ∀ name, ref.qualifier = some name → ∃ owner,
        (instances t joins).filter (·.1 == name) = [(name, owner)] ∧
          ref.column ∈ owner.columns := by
  have hfound : ((resolve reviewCatalog.describer Registry.empty.locator
      reviewRequest).toOption.bind fun s => s.tables.find? fun t =>
        (s.joins t .all).toOption.map (fun joins => (instances t joins).map Prod.fst) ==
          some ["review", "song", "user", "song_2", "user_2"]).isSome = true := by
    decide +kernel
  obtain ⟨t, hfound⟩ := Option.isSome_iff_exists.1 hfound
  obtain ⟨s, hs, hfind⟩ := Option.bind_eq_some_iff.1 hfound
  have ht := List.mem_of_find?_eq_some hfind
  obtain ⟨columns, joins, hcolumns, hjoins, hiff, howner⟩ :=
    names_nodup_iff (Attempt.toOption_eq_some.1 hs) ht .all
  have hnames : (instances t joins).map Prod.fst =
      ["review", "song", "user", "song_2", "user_2"] := by
    have hfive := List.find?_some hfind
    rw [hjoins] at hfive
    exact Option.some.inj (eq_of_beq hfive)
  refine ⟨s, t, columns, joins, Attempt.toOption_eq_some.1 hs, ht, hcolumns, hjoins, hnames, ?_⟩
  refine howner (hiff.1 ?_)
  rw [hnames]
  decide

/-- A user, and a pair of users kept in a table that is called as the
second of two users is renamed. -/
def clashingCatalog : Catalog where
  decls := [
    ⟨.named "User", [.plain "id" (.named "i32")], true, none, none, [], none⟩,
    ⟨.named "Pair", [.plain "left" (.generic "ForeignInt" [.named "User"]),
      .plain "right" (.generic "ForeignInt" [.named "User"])], true, none, none, [], none⟩]
  unsupported := []

def clashingRequest : Request :=
  ⟨[.ofModel (.named "User"), { TableRequest.ofModel (.named "Pair") with table := "user_2" }], []⟩

/-- Two of the three tables that a pair of users is selected with go by
one name. -/
theorem names_not_nodup_clashing :
    ∃ s t joins, resolve clashingCatalog.describer Registry.empty.locator clashingRequest = .ok s ∧
      t ∈ s.tables ∧ s.joins t .all = .ok joins ∧
      (instances t joins).map Prod.fst = ["user_2", "user", "user_2"] ∧
      ¬ ((instances t joins).map Prod.fst).Nodup := by
  have hfound : ((resolve clashingCatalog.describer Registry.empty.locator
      clashingRequest).toOption.bind fun s => s.tables.find? fun t =>
        (s.joins t .all).toOption.map (fun joins => (instances t joins).map Prod.fst) ==
          some ["user_2", "user", "user_2"]).isSome = true := by
    decide +kernel
  obtain ⟨t, hfound⟩ := Option.isSome_iff_exists.1 hfound
  obtain ⟨s, hs, hfind⟩ := Option.bind_eq_some_iff.1 hfound
  have hnames := List.find?_some hfind
  obtain ⟨joins, hjoins, hnames⟩ := Option.map_eq_some_iff.1 (eq_of_beq hnames)
  refine ⟨s, t, joins, Attempt.toOption_eq_some.1 hs, List.mem_of_find?_eq_some hfind,
    Attempt.toOption_eq_some.1 hjoins, hnames, ?_⟩
  rw [hnames]
  decide

end Sql

end Rowsmith

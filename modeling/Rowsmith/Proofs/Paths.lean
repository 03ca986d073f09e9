/-
Paths as lists of components. A path is kept as text, and the same file
has several texts; what is compared are the components. Here it is shown
that the components behave as one would expect of a list: their order is
the order of words, joining adds one at the end, and the parent drops the
last.

A list of components is that of a path only if all but the first of them
are names or go up (`Proper`). The beginnings of such a list are again
such lists, and written as text and joined they give the path back
(`components_below`).
-/
import Mathlib.Data.List.Induction
import Rowsmith.Path

namespace Rowsmith

-- ================================================================ order

namespace PathComponent

theorem order_eq : order = compareLex (compareOn rank) (compareOn text) := rfl

instance : Std.TransCmp order := by
  rw [order_eq]
  infer_instance

/-- Components that compare equal are equal. -/
theorem eq_of_order_eq {a b : PathComponent} (h : a.order b = .eq) : a = b := by
  obtain ⟨hrank, htext⟩ := Ordering.then_eq_eq.1 h
  have hrank := Std.LawfulEqOrd.eq_of_compare hrank
  have htext := Std.LawfulEqOrd.eq_of_compare htext
  cases a <;> cases b <;> simp_all [rank, text]

instance : Std.LawfulEqCmp order where
  eq_of_compare := eq_of_order_eq

end PathComponent

namespace Path

theorem orderComponents_eq : orderComponents = List.compareLex PathComponent.order := by
  funext a b
  induction a generalizing b with
  | nil => cases b <;> rfl
  | cons c a ih =>
      cases b with
      | nil => rfl
      | cons d b =>
          rw [orderComponents, ih, List.compareLex_cons_cons]

/-- Paths compare equal if they have the same components. -/
theorem order_eq_eq {a b : Path} : a.order b = .eq ↔ a.components = b.components := by
  unfold order
  rw [orderComponents_eq]
  exact Std.LawfulEqCmp.compare_eq_iff_eq

theorem le_trans {a b c : Path} (hab : a.le b = true) (hbc : b.le c = true) : a.le c = true := by
  unfold le order at *
  rw [orderComponents_eq] at *
  simp only [bne_iff_ne, ne_eq, Ordering.ne_gt_iff_isLE] at *
  exact Std.TransCmp.isLE_trans hab hbc

theorem le_total (a b : Path) : (a.le b || b.le a) = true := by
  have hswap : List.compareLex PathComponent.order b.components a.components =
      (List.compareLex PathComponent.order a.components b.components).swap :=
    Std.OrientedCmp.eq_swap
  unfold le order
  rw [orderComponents_eq, hswap]
  cases List.compareLex PathComponent.order a.components b.components <;> rfl

/-- A path comes before another if it does not come after it and names
another file. -/
theorem order_eq_lt {a b : Path} :
    a.order b = .lt ↔ a.le b = true ∧ a.components ≠ b.components := by
  rw [ne_eq, ← order_eq_eq]
  unfold le
  cases a.order b <;> simp

-- =========================================================== components

/-- The components that stretches of a path make up, the first of which
may be the first of the path. -/
def componentsFrom : Bool → List (List Char) → List PathComponent
  | _, [] => []
  | isFirst, stretch :: rest => (componentOf isFirst stretch).toList ++ componentsFrom false rest

/-- The same with the text up to the end of each. -/
def cutsFrom : Bool → List (List Char × List Char) → List (PathComponent × List Char)
  | _, [] => []
  | isFirst, (stretch, upTo) :: rest =>
    ((componentOf isFirst stretch).map fun c => (c, upTo)).toList ++ cutsFrom false rest

theorem componentsFrom_append {isFirst : Bool} {l : List (List Char)} (h : l ≠ [])
    (more : List (List Char)) :
    componentsFrom isFirst (l ++ more) = componentsFrom isFirst l ++ componentsFrom false more := by
  induction l generalizing isFirst with
  | nil => exact absurd rfl h
  | cons stretch rest ih =>
      rw [List.cons_append, componentsFrom, componentsFrom, List.append_assoc]
      cases rest with
      | nil => rfl
      | cons s rest => rw [ih (List.cons_ne_nil _ _)]

theorem cutsFrom_map_fst (isFirst : Bool) (l : List (List Char × List Char)) :
    (cutsFrom isFirst l).map (·.1) = componentsFrom isFirst (l.map (·.1)) := by
  induction l generalizing isFirst with
  | nil => rfl
  | cons s rest ih =>
      rw [cutsFrom, List.map_append, ih, List.map_cons, componentsFrom]
      cases componentOf isFirst s.1 <;> rfl

theorem cuts_eq (p : Path) : p.cuts =
    (if p.isAbsolute then [(.root, ['/'])] else []) ++
      cutsFrom true (stretches [] [] p.text.toList) := by
  have hfound : ∀ (l : List (List Char × List Char)) (start : Nat),
      ((l.zipIdx start).filterMap fun s =>
        (componentOf (s.2 == 0) s.1.1).map fun c => (c, s.1.2)) = cutsFrom (start == 0) l := by
    intro l
    induction l with
    | nil => exact fun _ => rfl
    | cons s l ih =>
        intro start
        have hrest := ih (start + 1)
        rw [List.zipIdx_cons, cutsFrom]
        cases hs : componentOf (start == 0) s.1 with
        | none => simpa [List.filterMap_cons, hs] using hrest
        | some c => simpa [List.filterMap_cons, hs] using hrest
  have hcuts : p.cuts = if p.isAbsolute then (.root, ['/']) :: _ else _ := rfl
  rw [hcuts, hfound]
  by_cases habsolute : p.isAbsolute = true
  · rw [if_pos habsolute, if_pos habsolute]
    rfl
  · rw [if_neg habsolute, if_neg habsolute]
    rfl

/-- The stretches of a text are what stands between its slashes. -/
theorem stretches_map_fst (current before l : List Char) :
    (stretches current before l).map (·.1) =
      (l.splitOn '/').modifyHead (current.reverse ++ ·) := by
  induction l generalizing current before with
  | nil =>
      rw [List.splitOn_nil]
      show [current.reverse] = [current.reverse ++ []]
      rw [List.append_nil]
  | cons c rest ih =>
      rw [List.splitOn_cons_eq_if_modifyHead]
      unfold stretches
      by_cases hc : (c == '/') = true
      · rw [if_pos hc, if_pos hc, List.map_cons, ih, List.modifyHead_cons, List.append_nil]
        congr 1
        cases rest.splitOn '/' <;> rfl
      · rw [if_neg hc, if_neg hc, ih]
        cases rest.splitOn '/' with
        | nil => rfl
        | cons s more => simp

theorem components_eq (p : Path) : p.components =
    (if p.isAbsolute then [.root] else []) ++
      componentsFrom true (p.text.toList.splitOn '/') := by
  have hsplit : (stretches [] [] p.text.toList).map (·.1) = p.text.toList.splitOn '/' := by
    rw [stretches_map_fst]
    cases p.text.toList.splitOn '/' <;> rfl
  unfold components
  rw [cuts_eq, List.map_append, cutsFrom_map_fst, hsplit]
  by_cases habsolute : p.isAbsolute = true
  · rw [if_pos habsolute, if_pos habsolute]
    rfl
  · rw [if_neg habsolute, if_neg habsolute]
    rfl

-- =============================================================== parents

/-- The text up to the end of a stretch is cut into the stretches so
far. -/
theorem stretches_eq_append {current before l upTo s : List Char}
    {done rest : List (List Char × List Char)}
    (h : stretches current before l = done ++ (s, upTo) :: rest) :
    ∃ x, upTo = before.reverse ++ x ∧ x <+: l ∧
      (x.splitOn '/').modifyHead (current.reverse ++ ·) = done.map (·.1) ++ [s] := by
  have hends : (([] : List Char).splitOn '/').modifyHead (current.reverse ++ ·) =
      [current.reverse] := by
    rw [List.splitOn_nil, List.modifyHead_cons, List.append_nil]
  induction l generalizing current before done with
  | nil =>
      unfold stretches at h
      cases done with
      | nil =>
          obtain ⟨rfl, rfl⟩ := Prod.mk.inj (List.cons.inj h).1
          exact ⟨[], (List.append_nil _).symm, List.nil_prefix, hends⟩
      | cons d done => simp at h
  | cons c l ih =>
      unfold stretches at h
      by_cases hc : (c == '/') = true
      · rw [if_pos hc] at h
        cases done with
        | nil =>
            obtain ⟨rfl, rfl⟩ := Prod.mk.inj (List.cons.inj h).1
            exact ⟨[], (List.append_nil _).symm, List.nil_prefix, hends⟩
        | cons d done =>
            obtain ⟨rfl, hrest⟩ := List.cons.inj h
            obtain ⟨x, rfl, hx, hsplit⟩ := ih hrest rfl
            have hid : (x.splitOn '/').modifyHead ([].reverse ++ ·) = x.splitOn '/' := by
              cases x.splitOn '/' <;> rfl
            refine ⟨c :: x, by simp, List.cons_prefix_cons.2 ⟨rfl, hx⟩, ?_⟩
            rw [List.splitOn_cons_eq_if_modifyHead, if_pos hc, List.modifyHead_cons,
              List.append_nil, ← hid, hsplit]
            rfl
      · rw [if_neg hc] at h
        obtain ⟨x, rfl, hx, hsplit⟩ := ih h (by simp)
        refine ⟨c :: x, by simp, List.cons_prefix_cons.2 ⟨rfl, hx⟩, ?_⟩
        rw [List.splitOn_cons_eq_if_modifyHead, if_neg hc, ← hsplit]
        cases x.splitOn '/' with
        | nil => rfl
        | cons s more => simp

/-- The cuts of a path after one of its stretches, and before. -/
theorem cutsFrom_eq_append {isFirst : Bool} {l : List (List Char × List Char)}
    {done rest : List (PathComponent × List Char)} {c : PathComponent} {upTo : List Char}
    (h : cutsFrom isFirst l = done ++ (c, upTo) :: rest) :
    ∃ before s after, l = before ++ (s, upTo) :: after ∧ s ≠ [] ∧
      componentsFrom isFirst (before.map (·.1) ++ [s]) = done.map (·.1) ++ [c] := by
  induction l generalizing isFirst done with
  | nil => cases done <;> cases h
  | cons first l ih =>
      obtain ⟨s, upTo'⟩ := first
      rw [cutsFrom] at h
      cases hs : componentOf isFirst s with
      | none =>
          rw [hs] at h
          obtain ⟨before, s', after, rfl, hs', hcomponents⟩ := ih h
          refine ⟨(s, upTo') :: before, s', after, rfl, hs', ?_⟩
          rw [List.map_cons, List.cons_append, componentsFrom, hs]
          exact hcomponents
      | some c' =>
          rw [hs] at h
          cases done with
          | nil =>
              obtain ⟨hsame, -⟩ := List.cons.inj h
              obtain ⟨rfl, rfl⟩ := Prod.mk.inj hsame
              refine ⟨[], s, l, rfl, ?_, ?_⟩
              · intro hnil
                rw [hnil] at hs
                cases hs
              · show (componentOf isFirst s).toList ++ [] = [c']
                rw [hs]
                rfl
          | cons d done =>
              obtain ⟨rfl, hrest⟩ := List.cons.inj h
              obtain ⟨before, s', after, rfl, hs', hcomponents⟩ := ih hrest
              refine ⟨(s, upTo') :: before, s', after, rfl, hs', ?_⟩
              rw [List.map_cons, List.cons_append, componentsFrom, hs, hcomponents]
              rfl

/-- The text up to the end of a component has the components so far. -/
theorem components_upTo {p : Path} {done rest : List (PathComponent × List Char)}
    {c : PathComponent} {upTo : List Char} (h : p.cuts = done ++ (c, upTo) :: rest) :
    (⟨String.ofList upTo⟩ : Path).components = done.map (·.1) ++ [c] := by
  -- a cut that is no root ends a stretch that is not empty
  have hstretch : ∀ {done' : List (PathComponent × List Char)},
      cutsFrom true (stretches [] [] p.text.toList) = done' ++ (c, upTo) :: rest →
      (⟨String.ofList upTo⟩ : Path).components =
        (if p.isAbsolute then [.root] else []) ++ (done'.map (·.1) ++ [c]) := by
    intro done' hcuts
    obtain ⟨before, s, after, hsplit, hs, hcomponents⟩ := cutsFrom_eq_append hcuts
    obtain ⟨x, hupTo, hleads, hx⟩ := stretches_eq_append hsplit
    have hid : (x.splitOn '/').modifyHead ([] ++ ·) = x.splitOn '/' := by
      cases x.splitOn '/' <;> rfl
    rw [List.reverse_nil, hid] at hx
    rw [List.reverse_nil, List.nil_append] at hupTo
    rw [hupTo]
    have habsolute : (⟨String.ofList x⟩ : Path).isAbsolute = p.isAbsolute := by
      unfold isAbsolute
      rw [String.toList_ofList]
      cases x with
      | nil =>
          rw [List.splitOn_nil] at hx
          have hlast := congrArg List.getLast? hx
          rw [List.getLast?_concat] at hlast
          exact absurd (Option.some.inj hlast).symm hs
      | cons first x =>
          obtain ⟨more, htext⟩ := hleads
          rw [← htext]
          rfl
    rw [components_eq, habsolute, String.toList_ofList, hx, hcomponents]
  by_cases habsolute : p.isAbsolute = true
  · rw [if_pos habsolute] at hstretch
    rw [cuts_eq, if_pos habsolute] at h
    cases done with
    | nil =>
        obtain ⟨rfl, rfl⟩ := Prod.mk.inj (List.cons.inj h).1
        rfl
    | cons d done =>
        obtain ⟨rfl, hrest⟩ := List.cons.inj h
        exact hstretch hrest
  · rw [if_neg habsolute] at hstretch
    rw [cuts_eq, if_neg habsolute] at h
    exact hstretch h

/-- The parent of a path that does not end at the root has all but the
last of its components. -/
theorem components_parent {p : Path} {before : List PathComponent} {c : PathComponent}
    (h : p.components = before ++ [c]) (hroot : c ≠ .root) :
    ∃ q, p.parent? = some q ∧ q.components = before := by
  unfold components at h
  obtain ⟨done, last, hcuts, rfl, hlast⟩ := List.map_eq_append_iff.1 h
  obtain ⟨⟨c', upTo⟩, rfl, rfl⟩ := List.map_eq_singleton_iff.1 hlast
  unfold parent?
  rw [hcuts, List.reverse_append, List.reverse_singleton, List.singleton_append]
  cases hdone : done.reverse with
  | nil =>
      obtain rfl := List.reverse_eq_nil_iff.1 hdone
      refine ⟨⟨""⟩, ?_, rfl⟩
      split
      · rename_i hnil
        cases hnil
      · rename_i hsame
        exact absurd (Prod.mk.inj (List.cons.inj hsame).1).1 hroot
      · rfl
      · rename_i hsame
        cases (List.cons.inj hsame).2
  | cons previous earlier =>
      obtain ⟨d, upTo'⟩ := previous
      have hsplit : done = earlier.reverse ++ [(d, upTo')] := by
        rw [← List.reverse_reverse done, hdone, List.reverse_cons]
      rw [hsplit, List.append_assoc] at hcuts
      refine ⟨⟨String.ofList upTo'⟩, ?_, ?_⟩
      · split
        · rename_i hnil
          cases hnil
        · rename_i hsame
          exact absurd (Prod.mk.inj (List.cons.inj hsame).1).1 hroot
        · rename_i hsame
          cases (List.cons.inj hsame).2
        · rename_i hsame
          obtain ⟨hprevious, -⟩ := List.cons.inj (List.cons.inj hsame).2
          rw [(Prod.mk.inj hprevious).2]
      · rw [components_upTo hcuts, hsplit, List.map_append]
        rfl

-- =============================================================== joining

end Path

/-- A component may follow another: a name, or going up. -/
def PathComponent.Follows (c : PathComponent) : Prop :=
  '/' ∉ c.text.toList ∧ Path.componentOf false c.text.toList = some c

/-- A component may begin a path: the root, or a stretch of its own. -/
def PathComponent.Begins (c : PathComponent) : Prop :=
  c = .root ∨ '/' ∉ c.text.toList ∧ Path.componentOf true c.text.toList = some c

/-- The components can be those of a path. -/
def Proper : List PathComponent → Prop
  | [] => True
  | c :: rest => c.Begins ∧ ∀ d ∈ rest, d.Follows

theorem PathComponent.Follows.begins {c : PathComponent} (h : c.Follows) : c.Begins := by
  obtain ⟨hslash, hcomponent⟩ := h
  refine Or.inr ⟨hslash, ?_⟩
  unfold Path.componentOf at hcomponent ⊢
  split at hcomponent
  · cases hcomponent
  · cases hcomponent
  · exact hcomponent
  · exact hcomponent

/-- The text of a component is the stretch it was. -/
theorem PathComponent.text_of_componentOf {isFirst : Bool} {stretch : List Char}
    {c : PathComponent} (h : Path.componentOf isFirst stretch = some c) :
    c.text.toList = stretch := by
  unfold Path.componentOf at h
  split at h
  · cases h
  · split at h
    · obtain rfl := Option.some.inj h
      rfl
    · cases h
  · obtain rfl := Option.some.inj h
    rfl
  · obtain rfl := Option.some.inj h
    exact String.toList_ofList

theorem Proper.append {before after : List PathComponent} (h : Proper before)
    (hafter : ∀ c ∈ after, c.Follows) : Proper (before ++ after) := by
  cases before with
  | cons c rest =>
      refine ⟨h.1, fun d hd => ?_⟩
      rcases List.mem_append.1 hd with hd | hd
      · exact h.2 d hd
      · exact hafter d hd
  | nil =>
      cases after with
      | nil => trivial
      | cons c rest =>
          obtain ⟨hc, hrest⟩ := List.forall_mem_cons.1 hafter
          exact ⟨hc.begins, hrest⟩

theorem Proper.of_leading {before cs : List PathComponent} (h : Proper cs) (hleads : before <+: cs) :
    Proper before := by
  obtain ⟨after, rfl⟩ := hleads
  cases before with
  | nil => trivial
  | cons c rest => exact ⟨h.1, fun d hd => h.2 d (List.mem_append_left _ hd)⟩

namespace Path

/-- A stretch after the first becomes a component that may follow
another. -/
theorem follows_of_mem {stretches : List (List Char)} {c : PathComponent}
    (hslash : ∀ stretch ∈ stretches, '/' ∉ stretch) (h : c ∈ componentsFrom false stretches) :
    c.Follows := by
  induction stretches with
  | nil => cases h
  | cons stretch rest ih =>
      obtain ⟨hstretch, hrest⟩ := List.forall_mem_cons.1 hslash
      rcases List.mem_append.1 h with hfirst | hlater
      · have hc := Option.mem_toList.1 hfirst
        have htext := PathComponent.text_of_componentOf hc
        unfold PathComponent.Follows
        rw [htext]
        exact ⟨hstretch, hc⟩
      · exact ih hrest hlater

/-- No stretch holds a slash. -/
theorem slash_not_mem_splitOn (l : List Char) : ∀ stretch ∈ l.splitOn '/', '/' ∉ stretch := by
  induction l with
  | nil => simp
  | cons c l ih =>
      rw [List.splitOn_cons_eq_if_modifyHead]
      cases hsplit : l.splitOn '/' with
      | nil => exact absurd hsplit (List.splitOn_ne_nil _ _)
      | cons stretch rest =>
          rw [hsplit] at ih
          obtain ⟨hstretch, hrest⟩ := List.forall_mem_cons.1 ih
          by_cases hc : (c == '/') = true
          · rw [if_pos hc]
            exact List.forall_mem_cons.2 ⟨List.not_mem_nil, ih⟩
          · rw [if_neg hc, List.modifyHead_cons]
            refine List.forall_mem_cons.2 ⟨?_, hrest⟩
            intro hmem
            rcases List.mem_cons.1 hmem with hsame | hmem
            · exact hc (beq_iff_eq.2 hsame.symm)
            · exact hstretch hmem

/-- A stretch that begins a path counts unless it is empty. -/
theorem componentOf_cons (c : Char) (stretch : List Char) :
    ∃ d, componentOf true (c :: stretch) = some d := by
  unfold componentOf
  split
  · rename_i h
    cases h
  · exact ⟨_, rfl⟩
  · exact ⟨_, rfl⟩
  · exact ⟨_, rfl⟩

/-- The components of a path by how its text begins. -/
theorem components_cases (p : Path) :
    (p.text.toList = [] ∧ p.components = []) ∨
    (∃ rest, p.text.toList = '/' :: rest ∧
      p.components = .root :: componentsFrom false (rest.splitOn '/')) ∨
    ∃ stretch d more, '/' ∉ stretch ∧ (∀ s ∈ more, '/' ∉ s) ∧
      componentOf true stretch = some d ∧ p.components = d :: componentsFrom false more := by
  have hslash := slash_not_mem_splitOn p.text.toList
  rw [components_eq]
  unfold isAbsolute
  cases htext : p.text.toList with
  | nil => exact Or.inl ⟨rfl, rfl⟩
  | cons c rest =>
      rw [htext, List.splitOn_cons_eq_if_modifyHead] at hslash
      rw [List.splitOn_cons_eq_if_modifyHead]
      by_cases hc : c = '/'
      · subst hc
        exact Or.inr (Or.inl ⟨rest, rfl, rfl⟩)
      · have hne : ¬ (c == '/') = true := by simp [hc]
        rw [if_neg hne] at hslash ⊢
        rw [if_neg (by simp [hc])]
        cases hsplit : rest.splitOn '/' with
        | nil => exact absurd hsplit (List.splitOn_ne_nil _ _)
        | cons stretch more =>
            rw [hsplit, List.modifyHead_cons] at hslash
            obtain ⟨hstretch, hmore⟩ := List.forall_mem_cons.1 hslash
            obtain ⟨d, hd⟩ := componentOf_cons c stretch
            refine Or.inr (Or.inr ⟨c :: stretch, d, more, hstretch, hmore, hd, ?_⟩)
            rw [List.modifyHead_cons, componentsFrom, hd]
            rfl

theorem components_proper (p : Path) : Proper p.components := by
  rcases p.components_cases with ⟨-, h⟩ | ⟨rest, -, h⟩ | ⟨stretch, d, more, hstretch, hmore, hd, h⟩
  · rw [h]
    trivial
  · rw [h]
    exact ⟨Or.inl rfl, fun c => follows_of_mem (slash_not_mem_splitOn rest)⟩
  · rw [h]
    refine ⟨Or.inr ?_, fun c => follows_of_mem hmore⟩
    rw [PathComponent.text_of_componentOf hd]
    exact ⟨hstretch, hd⟩

theorem below_concat (names : List String) (name : String) :
    below (names ++ [name]) = (below names).join ⟨name⟩ := by
  unfold below
  rw [List.foldl_append]
  rfl

/-- A text without slashes is not absolute. -/
theorem isAbsolute_eq_false {p : Path} (h : '/' ∉ p.text.toList) : p.isAbsolute = false := by
  unfold isAbsolute
  cases htext : p.text.toList with
  | nil => rfl
  | cons c rest =>
      have hc : c ≠ '/' := by
        intro hc
        rw [htext, hc] at h
        exact h List.mem_cons_self
      simp [hc]

/-- A path can be continued by joining: it is not empty, and it ends in a
slash only if it is the root. -/
def Joinable (p : Path) : Prop :=
  p.text.toList ≠ [] ∧ (p.text.toList.getLast? = some '/' → p.text = "/")

/-- Joining puts a component at the end. -/
theorem components_join {base : Path} {c : PathComponent} (hbase : base.Joinable)
    (hc : c.Follows) : (base.join ⟨c.text⟩).components = base.components ++ [c] ∧
      (base.join ⟨c.text⟩).Joinable := by
  obtain ⟨hslash, hcomponent⟩ := hc
  obtain ⟨hnonempty, hend⟩ := hbase
  have hname : c.text.toList ≠ [] := by
    intro hnil
    rw [hnil] at hcomponent
    cases hcomponent
  have hlast : ∀ before : List Char, (before ++ c.text.toList).getLast? ≠ some '/' := by
    intro before h
    rw [List.getLast?_append, List.getLast?_eq_some_getLast hname, Option.some_or] at h
    exact hslash (Option.some.inj h ▸ List.getLast_mem hname)
  have hrelative : (⟨c.text⟩ : Path).isAbsolute = false := isAbsolute_eq_false hslash
  have hempty : base.text.isEmpty = false := by simpa using hnonempty
  have hsingle : c.text.toList.splitOn '/' = [c.text.toList] := List.splitOn_eq_singleton hslash
  have hadded : componentsFrom false [c.text.toList] = [c] := by
    rw [componentsFrom, hcomponent]
    rfl
  unfold join
  rw [if_neg (by rw [hrelative]; exact Bool.false_ne_true), hempty, Bool.false_or]
  by_cases hroot : (base.text.toList.getLast? == some '/') = true
  · have htext := hend (eq_of_beq hroot)
    have hlist : ("/" ++ c.text).toList = '/' :: c.text.toList := String.toList_append
    have hbase : base.components = [.root] := by
      obtain ⟨text⟩ := base
      obtain rfl : text = "/" := htext
      rfl
    rw [if_pos hroot, hbase, htext]
    refine ⟨?_, ?_⟩
    · rw [components_eq]
      unfold isAbsolute
      rw [hlist, List.splitOn_cons_eq_if_modifyHead, if_pos (beq_self_eq_true _), hsingle]
      exact congrArg (_ :: ·) hadded
    · unfold Joinable
      rw [hlist]
      exact ⟨List.cons_ne_nil _ _, fun h => absurd h (hlast ['/'])⟩
  · have hlist : (base.text ++ "/" ++ c.text).toList =
        base.text.toList ++ '/' :: c.text.toList := by
      rw [String.toList_append, String.toList_append, List.append_assoc]
      rfl
    have habsolute : (⟨base.text ++ "/" ++ c.text⟩ : Path).isAbsolute = base.isAbsolute := by
      unfold isAbsolute
      rw [hlist]
      cases htext : base.text.toList with
      | nil => exact absurd htext hnonempty
      | cons first more => rfl
    rw [if_neg hroot]
    refine ⟨?_, ?_⟩
    · rw [components_eq, habsolute, hlist, List.splitOn_append_cons_self, hsingle,
        componentsFrom_append (List.splitOn_ne_nil _ _), hadded, components_eq, List.append_assoc]
    · unfold Joinable
      rw [hlist]
      refine ⟨by simp, fun h => absurd h ?_⟩
      have hsplit : base.text.toList ++ '/' :: c.text.toList =
          (base.text.toList ++ ['/']) ++ c.text.toList := by simp
      rw [hsplit]
      exact hlast _

/-- Joining to the empty path gives the component alone. -/
theorem components_join_empty {c : PathComponent} (hc : c.Begins) :
    ((⟨""⟩ : Path).join ⟨c.text⟩).components = [c] ∧ ((⟨""⟩ : Path).join ⟨c.text⟩).Joinable := by
  rcases hc with rfl | ⟨hslash, hcomponent⟩
  · exact ⟨rfl, by decide, fun _ => rfl⟩
  · have hrelative : (⟨c.text⟩ : Path).isAbsolute = false := isAbsolute_eq_false hslash
    have hjoin : (⟨""⟩ : Path).join ⟨c.text⟩ = ⟨c.text⟩ := by
      unfold join
      rw [hrelative]
      show (⟨"" ++ c.text⟩ : Path) = _
      rw [String.empty_append]
    rw [hjoin]
    refine ⟨?_, ?_, ?_⟩
    · rw [components_eq, hrelative, List.splitOn_eq_singleton hslash, componentsFrom, hcomponent]
      rfl
    · intro hnil
      change c.text.toList = [] at hnil
      rw [hnil] at hcomponent
      cases hcomponent
    · intro hlast
      exact absurd (List.mem_of_getLast? hlast) hslash

/-- Components written as text and joined are those of the path they make
up. -/
theorem components_below {cs : List PathComponent} (h : Proper cs) :
    (below (cs.map PathComponent.text)).components = cs ∧
      (cs ≠ [] → (below (cs.map PathComponent.text)).Joinable) := by
  induction cs using List.reverseRecOn with
  | nil => exact ⟨rfl, fun hnil => absurd rfl hnil⟩
  | append_singleton cs c ih =>
      rw [List.map_append, List.map_singleton, below_concat]
      cases cs with
      | nil =>
          obtain ⟨hcomponents, hjoinable⟩ := components_join_empty h.1
          exact ⟨hcomponents, fun _ => hjoinable⟩
      | cons first rest =>
          have hc : c.Follows := h.2 c (List.mem_append_right _ (List.mem_singleton.2 rfl))
          obtain ⟨hcomponents, hjoinable⟩ := ih (h.of_leading (List.prefix_append _ _))
          obtain ⟨hadded, hjoined⟩ := components_join (hjoinable (List.cons_ne_nil _ _)) hc
          rw [hcomponents] at hadded
          exact ⟨hadded, fun _ => hjoined⟩

-- ================================================================= files

/-- A stretch of three characters or more is a name. -/
theorem componentOf_long {isFirst : Bool} {stretch : List Char} (h : 3 ≤ stretch.length) :
    componentOf isFirst stretch = some (.normal (String.ofList stretch)) := by
  unfold componentOf
  split
  · cases h
  · rw [List.length_singleton] at h
    omega
  · rw [List.length_cons, List.length_singleton] at h
    omega
  · rfl

/-- A text that ends without a slash belongs to the last stretch. -/
theorem splitOn_append {before after : List Char} (h : '/' ∉ after) :
    ∃ stretches stretch, (before ++ after).splitOn '/' = stretches ++ [stretch ++ after] := by
  induction before with
  | nil => exact ⟨[], [], List.splitOn_eq_singleton h⟩
  | cons c before ih =>
      obtain ⟨stretches, stretch, hsplit⟩ := ih
      rw [List.cons_append, List.splitOn_cons_eq_if_modifyHead, hsplit]
      by_cases hc : (c == '/') = true
      · rw [if_pos hc]
        exact ⟨[] :: stretches, stretch, rfl⟩
      · rw [if_neg hc]
        cases stretches with
        | nil => exact ⟨[], c :: stretch, rfl⟩
        | cons first stretches => exact ⟨(c :: first) :: stretches, stretch, rfl⟩

/-- A path that ends in a longer text without slashes ends in a name. -/
theorem exists_components_concat {p : Path} {before after : List Char}
    (htext : p.text.toList = before ++ after) (hslash : '/' ∉ after) (hlong : 3 ≤ after.length) :
    ∃ cs name, p.components = cs ++ [.normal name] := by
  obtain ⟨stretches, stretch, hsplit⟩ := @splitOn_append before after hslash
  have hname : ∀ isFirst, componentOf isFirst (stretch ++ after) =
      some (.normal (String.ofList (stretch ++ after))) := by
    intro isFirst
    apply componentOf_long
    rw [List.length_append]
    omega
  have hlast : ∃ cs, componentsFrom true (stretches ++ [stretch ++ after]) =
      cs ++ [.normal (String.ofList (stretch ++ after))] := by
    cases stretches with
    | nil =>
        refine ⟨[], ?_⟩
        rw [List.nil_append, componentsFrom, hname]
        rfl
    | cons first stretches =>
        refine ⟨componentsFrom true (first :: stretches), ?_⟩
        rw [componentsFrom_append (List.cons_ne_nil _ _), componentsFrom, componentsFrom, hname]
        rfl
  obtain ⟨cs, hcs⟩ := hlast
  rw [components_eq, htext, hsplit, hcs, ← List.append_assoc]
  exact ⟨_, _, rfl⟩

/-- What is joined stands at the end. -/
theorem join_text (base below : Path) :
    ∃ before, (base.join below).text.toList = before ++ below.text.toList := by
  unfold join
  split
  · exact ⟨[], rfl⟩
  · split
    · exact ⟨base.text.toList, String.toList_append⟩
    · exact ⟨(base.text ++ "/").toList, String.toList_append⟩

/-- A path whose last component is a name has this name, and a parent. -/
theorem exists_parent {p : Path} {cs : List PathComponent} {name : String}
    (h : p.components = cs ++ [.normal name]) :
    p.fileName? = some name ∧ ∃ q, p.parent? = some q ∧ q.components = cs := by
  refine ⟨?_, components_parent h (fun hroot => by cases hroot)⟩
  unfold fileName?
  rw [h, List.getLast?_concat]

end Path

end Rowsmith

/-
What a unit brings into scope. Every step in writing a unit refers to types
at certain paths and takes certain items of the runtime, and this can be said
of the step without the names that are there when it is taken (`Brings`).
Afterwards the items are in use, and a path that was referred to is declared
if no other has its short name. Names go to those that come first: what a name
stands for is the first of all paths so far that ends in it (`firstEnding`),
unless the unit or the runtime has the name.

That each name has one meaning is then a matter of the names in the end. A
step would answer the same if it were taken once more after all others
(`Settled.within`), so all answers can be compared under the same names.
There a path has its short name if it is declared, and goes in full
otherwise; and no short name is a path of several segments.

# Main results

Calls for names are answered in any order, each path by a name of its own
(`calls_told_apart`).
-/
import Rowsmith.Proofs.Files.Collisions
import Rowsmith.Proofs.TypeExpr.Segments
import Rowsmith.Proofs.Writing.Fitting

namespace Rowsmith.Emit

open Text

-- =========================================================== first paths

/-- The first of several paths that ends in a name. -/
def firstEnding (paths : List String) (name : String) : Option String :=
  paths.find? fun path => TypeExpr.lastSegment path = name

theorem firstEnding_append (paths paths' : List String) (name : String) :
    firstEnding (paths ++ paths') name =
      (firstEnding paths name).or (firstEnding paths' name) :=
  List.find?_append

theorem firstEnding_eq_none {paths : List String} {name : String} :
    firstEnding paths name = none ↔ ∀ path ∈ paths, TypeExpr.lastSegment path ≠ name := by
  unfold firstEnding
  simp only [List.find?_eq_none, decide_eq_true_eq, ne_eq]

theorem firstEnding_isSome {paths : List String} {name : String} :
    (firstEnding paths name).isSome = true ↔ name ∈ paths.map TypeExpr.lastSegment := by
  unfold firstEnding
  simp only [List.find?_isSome, decide_eq_true_eq, List.mem_map]

theorem mem_of_firstEnding {paths : List String} {path name : String}
    (h : firstEnding paths name = some path) : path ∈ paths :=
  List.mem_of_find?_eq_some h

theorem lastSegment_of_firstEnding {paths : List String} {path name : String}
    (h : firstEnding paths name = some path) : TypeExpr.lastSegment path = name :=
  of_decide_eq_true (@List.find?_some _ (fun p => TypeExpr.lastSegment p = name) _ _ h)

/-- A path that was there before is never the first. -/
theorem firstEnding_append_of_subset {paths paths' : List String} (h : paths' ⊆ paths)
    (name : String) : firstEnding (paths ++ paths') name = firstEnding paths name := by
  rw [firstEnding_append]
  cases hfirst : firstEnding paths name with
  | some path => rfl
  | none => exact firstEnding_eq_none.2 fun path hpath => firstEnding_eq_none.1 hfirst path (h hpath)

-- ======================================================== names in scope

namespace Uses

variable {u v w : Uses} {path name : String} {items items' : List RuntimeItem}
  {paths paths' : List String}

/-- The declarations of the paths in use. -/
def pathLines (u : Uses) : List String := u.paths.map fun path => "use " ++ path ++ ";"

/-- The names that the declarations of a unit bring into scope. -/
def bound (u : Uses) : List String := u.itemNames ++ u.paths.map TypeExpr.lastSegment

theorem mem_pathLines : "use " ++ path ++ ";" ∈ u.pathLines ↔ path ∈ u.paths := by
  unfold pathLines
  rw [List.mem_map]
  constructor
  · intro ⟨path', hpath, hline⟩
    have hchars := congrArg String.toList hline
    simp only [String.toList_append] at hchars
    rwa [← String.toList_inj.1 (List.append_cancel_left (List.append_cancel_right hchars))]
  · intro h
    exact ⟨path, h, rfl⟩

theorem isReserved_eq_false : u.isReserved name = false ↔
    name ≠ u.own ∧ ∀ item : RuntimeItem, name ≠ item.name := by
  have hall : ∀ item : RuntimeItem, item ∈ RuntimeItem.all := by
    intro item
    cases item <;> decide
  unfold isReserved
  rw [Bool.or_eq_false_iff, beq_eq_false_iff_ne, List.contains_eq_mem, decide_eq_false_iff_not,
    List.mem_map, and_comm, ne_comm]
  simp only [not_exists, not_and, hall, true_imp_iff, ne_comm]

theorem mem_itemNames : name ∈ u.itemNames ↔ ∃ item ∈ u.items, item.name = name := by
  unfold itemNames
  simp only [List.mem_map, List.mem_filter, List.contains_iff_mem]
  refine exists_congr fun item => and_congr_left' (and_iff_right ?_)
  cases item <;> decide

namespace Tidy

/-- A path that is declared has its short name. -/
theorem pathOf?_of_mem (h : u.Tidy) (hpath : path ∈ u.paths) :
    u.pathOf? (TypeExpr.lastSegment path) = some path := by
  obtain ⟨name, hentry⟩ := mem_paths.1 hpath
  obtain rfl : name = TypeExpr.lastSegment path := h.named _ hentry
  cases hfound : u.pathOf? (TypeExpr.lastSegment path) with
  | none =>
      have hnone := List.find?_eq_none.1 (Option.map_eq_none_iff.1 hfound) _ hentry
      exact absurd (decide_eq_true rfl) hnone
  | some path' =>
      have hsame := List.inj_on_of_nodup_map h.nodup (mem_names_of_pathOf? hfound) hentry rfl
      rw [(Prod.mk.inj hsame).2]

/-- The declared paths have different short names. -/
theorem lastSegment_inj (h : u.Tidy) {path' : String} (hpath : path ∈ u.paths)
    (hpath' : path' ∈ u.paths)
    (hsame : TypeExpr.lastSegment path = TypeExpr.lastSegment path') : path = path' := by
  have hfound := h.pathOf?_of_mem hpath
  rw [hsame, h.pathOf?_of_mem hpath'] at hfound
  exact (Option.some.inj hfound).symm

theorem isReserved_lastSegment (h : u.Tidy) (hpath : path ∈ u.paths) :
    u.isReserved (TypeExpr.lastSegment path) = false := by
  obtain ⟨name, hentry⟩ := mem_paths.1 hpath
  exact h.named _ hentry ▸ h.free _ hentry

/-- The items are bound by their names, and the paths by their short names. -/
theorem mem_bound (h : u.Tidy) :
    name ∈ u.bound ↔ name ∈ u.itemNames ∨ name ∈ u.names.map (·.1) := by
  unfold bound
  rw [List.mem_append, List.mem_map, List.mem_map]
  refine or_congr_right ⟨?_, ?_⟩
  · intro ⟨path, hpath, hname⟩
    obtain ⟨name', hentry⟩ := mem_paths.1 hpath
    exact ⟨_, hentry, (h.named _ hentry).trans hname⟩
  · intro ⟨entry, hentry, hname⟩
    exact ⟨entry.2, mem_paths.2 ⟨entry.1, hentry⟩, (h.named _ hentry).symm.trans hname⟩

/-- The declarations bind no name twice. -/
theorem nodup_bound (h : u.Tidy) : u.bound.Nodup := by
  have hitems : (RuntimeItem.all.map RuntimeItem.name).Nodup := by decide
  refine List.nodup_append.2 ⟨?_, ?_, ?_⟩
  · exact hitems.sublist (List.filter_sublist.map _)
  · exact (Related.nodup_eraseDups _).map_on fun path hpath path' hpath' => h.lastSegment_inj hpath hpath'
  · intro name hname name' hname' hsame
    obtain ⟨item, -, rfl⟩ := mem_itemNames.1 hname
    obtain ⟨path, hpath, rfl⟩ := List.mem_map.1 hname'
    exact (isReserved_eq_false.1 (h.isReserved_lastSegment hpath)).2 item hsame.symm

end Tidy

/-- The names in scope are those that stand for a path. -/
theorem isSome_pathOf? : (u.pathOf? name).isSome = true ↔ name ∈ u.names.map (·.1) := by
  unfold pathOf?
  simp only [Option.isSome_map, List.find?_isSome, decide_eq_true_eq, List.mem_map]

/-- Items and paths that were added: the items are in use, and a name that
stood for nothing stands for the first of the paths that ends in it, unless
the unit or the runtime has it. -/
structure Brought (u v : Uses) (items : List RuntimeItem) (paths : List String) : Prop where
  runtime : v.runtime = u.runtime
  own : v.own = u.own
  items : ∀ item, item ∈ v.items ↔ item ∈ u.items ∨ item ∈ items
  stands : ∀ name, v.pathOf? name =
    (u.pathOf? name).or (if u.isReserved name then none else firstEnding paths name)

namespace Brought

theorem refl (u : Uses) : u.Brought u [] [] where
  runtime := rfl
  own := rfl
  items _ := by simp
  stands name := by
    show u.pathOf? name = (u.pathOf? name).or (if u.isReserved name then none else none)
    rw [ite_self, Option.or_none]

theorem trans (h : u.Brought v items paths) (h' : v.Brought w items' paths') :
    u.Brought w (items ++ items') (paths ++ paths') where
  runtime := h'.runtime.trans h.runtime
  own := h'.own.trans h.own
  items item := by rw [h'.items, h.items, List.mem_append, or_assoc]
  stands name := by
    have hreserved : v.isReserved name = u.isReserved name := by
      unfold isReserved
      rw [h.own]
    rw [h'.stands, h.stands, hreserved, firstEnding_append, Option.or_assoc]
    congr 1
    split
    · rfl
    · rfl

/-- What was added is told by its items and first paths alone. -/
theorem congr (h : u.Brought v items paths) (hitems : ∀ item, item ∈ items ↔ item ∈ items')
    (hpaths : ∀ name, firstEnding paths name = firstEnding paths' name) :
    u.Brought v items' paths' where
  runtime := h.runtime
  own := h.own
  items item := by rw [h.items, hitems]
  stands name := by rw [h.stands, hpaths]

/-- Every name in scope was there before, or is the short name of one of the
paths. -/
theorem named (h : u.Brought v items paths) (name : String) : name ∈ v.names.map (·.1) ↔
    name ∈ u.names.map (·.1) ∨
      name ∈ paths.map TypeExpr.lastSegment ∧ u.isReserved name = false := by
  rw [← isSome_pathOf?, ← isSome_pathOf?, ← firstEnding_isSome, h.stands, Option.isSome_or,
    Bool.or_eq_true]
  refine or_congr_right ?_
  cases u.isReserved name <;> simp

/-- What is declared in the end was referred to. -/
theorem mem_of_start {runtime own : String} (h : (start runtime own).Brought v items paths)
    (htidy : v.Tidy) (hpath : path ∈ v.paths) : path ∈ paths := by
  have hfirst := htidy.pathOf?_of_mem hpath
  have hnone : (start runtime own).pathOf? (TypeExpr.lastSegment path) = none := rfl
  rw [h.stands, hnone, Option.none_or] at hfirst
  split at hfirst
  · cases hfirst
  · exact mem_of_firstEnding hfirst

theorem useItem (u : Uses) (item : RuntimeItem) : u.Brought (u.useItem item) [item] [] := by
  unfold Uses.useItem
  split
  case isTrue hitem =>
    refine { Brought.refl u with items := fun item' => ?_ }
    rw [List.mem_singleton]
    exact ⟨Or.inl, fun h => h.elim id fun hsame => hsame ▸ List.contains_iff_mem.1 hitem⟩
  case isFalse =>
    refine { Brought.refl u with runtime := rfl, own := rfl, items := fun item' => ?_ }
    rw [List.mem_append]

theorem usePath (h : u.usePath path = (name, v)) : u.Brought v [] [path] := by
  have hfirst : ∀ name', firstEnding [path] name' =
      if TypeExpr.lastSegment path = name' then some path else none := by
    intro name'
    unfold firstEnding
    rw [List.find?_singleton]
    simp only [decide_eq_true_eq]
  -- nothing changes unless the name is free and stands for nothing yet
  have hkept : (∃ known, u.pathOf? (TypeExpr.lastSegment path) = some known) ∨
      u.isReserved (TypeExpr.lastSegment path) = true → u.Brought u [] [path] := by
    intro hkept
    refine { Brought.refl u with stands := fun name' => ?_ }
    rw [hfirst]
    by_cases hname : TypeExpr.lastSegment path = name'
    · rw [if_pos hname, ← hname]
      rcases hkept with ⟨known, hknown⟩ | hreserved
      · rw [hknown, Option.some_or]
      · rw [if_pos hreserved, Option.or_none]
    · rw [if_neg hname, ite_self, Option.or_none]
  rcases usePath_cases h with ⟨known, hknown, rfl, -⟩ | ⟨-, hreserved, rfl, -⟩ | ⟨hnone, hfree, -, rfl⟩
  · exact hkept (Or.inl ⟨known, hknown⟩)
  · exact hkept (Or.inr hreserved)
  · refine { Brought.refl u with
      runtime := rfl, own := rfl, items := fun _ => ?_, stands := fun name' => ?_ }
    · simp
    · unfold pathOf? at hnone ⊢
      rw [List.find?_append, List.find?_singleton, Option.map_or, hfirst]
      simp only [decide_eq_true_eq]
      by_cases hname : TypeExpr.lastSegment path = name'
      · rw [if_pos hname, if_pos hname, ← hname, if_neg (ne_true_of_eq_false hfree)]
        rfl
      · rw [if_neg hname, if_neg hname, ite_self]
        rfl

end Brought

end Uses

-- ================================================================= steps

namespace Writer

variable {α β γ : Type} {x : Writer α} {f : α → Writer β} {items items' : List RuntimeItem}
  {paths paths' : List String}

/-- A step takes items of the runtime and refers to paths. -/
structure Brings (x : Writer α) (items : List RuntimeItem) (paths : List String) : Prop where
  brought : ∀ {u v : Uses} {a : α}, x u = .ok (a, v) → u.Brought v items paths

namespace Brings

theorem congr (h : Brings x items paths) (hitems : ∀ item, item ∈ items ↔ item ∈ items')
    (hpaths : ∀ name, firstEnding paths name = firstEnding paths' name) :
    Brings x items' paths' :=
  ⟨fun hx => (h.brought hx).congr hitems hpaths⟩

theorem pure (a : α) : Brings (Pure.pure a : Writer α) [] [] := by
  refine ⟨fun {u v b} h => ?_⟩
  rw [(pure_eq_ok.1 h).2]
  exact .refl u

theorem lift (x : Except Defect α) : Brings (liftM x : Writer α) [] [] := by
  refine ⟨fun {u v b} h => ?_⟩
  rw [(lift_eq_ok.1 h).2]
  exact .refl u

theorem bind (hx : Brings x items paths) (hf : ∀ a, Brings (f a) items' paths') :
    Brings (x >>= f) (items ++ items') (paths ++ paths') := by
  refine ⟨fun h => ?_⟩
  obtain ⟨a, m, hxa, hfb⟩ := bind_eq_ok.1 h
  exact (hx.brought hxa).trans ((hf a).brought hfb)

/-- What needs no names brings none into scope, and what follows may depend
on it. -/
theorem bind_lift {x : Except Defect α} (hf : ∀ a, x = .ok a → Brings (f a) items paths) :
    Brings (liftM x >>= f) items paths := by
  refine ⟨fun h => ?_⟩
  obtain ⟨a, m, hxa, hfb⟩ := bind_eq_ok.1 h
  obtain ⟨ha, rfl⟩ := lift_eq_ok.1 hxa
  exact (hf a ha).brought hfb

/-- What follows a step may bring in nothing more. -/
theorem before (hx : Brings x items paths) (hf : ∀ a, Brings (f a) [] []) :
    Brings (x >>= f) items paths :=
  (hx.bind hf).congr (by simp) (by simp)

/-- The items that a step takes may come with what follows anyway. -/
theorem absorb (hx : Brings x items []) (hitems : items ⊆ items')
    (hf : ∀ a, Brings (f a) items' paths') : Brings (x >>= f) items' paths' := by
  refine (hx.bind hf).congr (fun item => ?_) fun _ => rfl
  rw [List.mem_append]
  exact or_iff_right_of_imp fun h => hitems h

theorem map (hx : Brings x items paths) (g : α → β) : Brings (g <$> x) items paths := by
  refine ⟨fun h => ?_⟩
  obtain ⟨a, hxa, -⟩ := map_eq_ok.1 h
  exact hx.brought hxa

theorem item (i : RuntimeItem) : Brings (Writer.item i) [i] [] := by
  refine ⟨fun {u v name} h => ?_⟩
  rw [(item_eq_ok.1 h).2]
  exact .useItem u i

theorem path (p : String) : Brings (Writer.path p) [] [p] :=
  ⟨fun h => .usePath (Settled.path_eq_ok.1 h)⟩

theorem foldlM {step : β → γ → Writer β} {items : γ → List RuntimeItem} {paths : γ → List String}
    {l : List γ} (h : ∀ c ∈ l, ∀ b, Brings (step b c) (items c) (paths c)) (b : β) :
    Brings (l.foldlM step b) (l.flatMap items) (l.flatMap paths) := by
  induction l generalizing b with
  | nil => exact .pure b
  | cons c l ih =>
      obtain ⟨hc, hl⟩ := List.forall_mem_cons.1 h
      rw [List.foldlM_cons]
      exact (hc b).bind fun b => ih hl b

/-- Steps that take no items take none together. -/
theorem foldlM_paths {step : β → γ → Writer β} {paths : γ → List String} {l : List γ}
    (h : ∀ c ∈ l, ∀ b, Brings (step b c) [] (paths c)) (b : β) :
    Brings (l.foldlM step b) [] (l.flatMap paths) :=
  (foldlM h b).congr (by simp) fun _ => rfl

theorem foldlM_none {step : β → γ → Writer β} {l : List γ}
    (h : ∀ c ∈ l, ∀ b, Brings (step b c) [] []) (b : β) : Brings (l.foldlM step b) [] [] := by
  have hnone : l.flatMap (fun _ => ([] : List String)) = [] := by simp
  have hpaths := foldlM_paths h b
  rwa [hnone] at hpaths

theorem mapM {f : γ → Writer β} {items : γ → List RuntimeItem} {paths : γ → List String}
    {l : List γ} (h : ∀ c ∈ l, Brings (f c) (items c) (paths c)) :
    Brings (l.mapM f) (l.flatMap items) (l.flatMap paths) := by
  induction l with
  | nil => exact .pure []
  | cons c l ih =>
      obtain ⟨hc, hl⟩ := List.forall_mem_cons.1 h
      rw [List.mapM_cons]
      refine (hc.bind fun b => (ih hl).bind fun bs => .pure (b :: bs)).congr ?_ ?_
      · simp
      · simp

end Brings

/-- Several steps are each settled by what they leave together: each gives
under the names in the end what it gave before. -/
theorem Settled.mapM_within {f : γ → Writer β} (hf : ∀ c, Settled (f c)) {l : List γ}
    {u v : Uses} {bs : List β} (h : l.mapM f u = .ok (bs, v)) (htidy : u.Tidy) :
    u.GrowsTo v ∧ v.Tidy ∧ List.Forall₂ (fun c b => f c v = .ok (b, v)) l bs := by
  induction l generalizing u bs with
  | nil =>
      obtain ⟨rfl, rfl⟩ := pure_eq_ok.1 h
      exact ⟨.refl v, htidy, .nil⟩
  | cons c l ih =>
      rw [List.mapM_cons] at h
      obtain ⟨b, m, hc, h⟩ := bind_eq_ok.1 h
      obtain ⟨bs', m', hl, h⟩ := bind_eq_ok.1 h
      obtain ⟨rfl, rfl⟩ := pure_eq_ok.1 h
      obtain ⟨hgrows, htidy', hrest⟩ := ih hl ((hf c).tidy hc htidy)
      exact ⟨((hf c).grows hc).trans hgrows, htidy',
        .cons ((hf c).within hc hgrows htidy') hrest⟩

end Writer

-- ================================================================= calls

/-- A call for a name: for an item of the runtime, or for the type at a
path. -/
inductive NameCall
  | item (i : RuntimeItem)
  | path (p : String)
deriving DecidableEq, Repr

namespace NameCall

/-- Answers a call with the name to use. -/
def answer : NameCall → Writer String
  | .item i => Writer.item i
  | .path p => Writer.path p

def items : NameCall → List RuntimeItem
  | .item i => [i]
  | .path _ => []

def paths : NameCall → List String
  | .item _ => []
  | .path p => [p]

theorem answer_settled (call : NameCall) : Writer.Settled call.answer := by
  cases call with
  | item i => exact .item i
  | path p => exact .path p

theorem answer_brings (call : NameCall) : Writer.Brings call.answer call.items call.paths := by
  cases call with
  | item i => exact .item i
  | path p => exact .path p

/-- Every call is answered. -/
theorem answer_succeeds (calls : List NameCall) (u : Uses) :
    ∃ answers v, calls.mapM answer u = .ok (answers, v) := by
  induction calls generalizing u with
  | nil => exact ⟨[], u, rfl⟩
  | cons call calls ih =>
      obtain ⟨name, m, hname⟩ : ∃ name m, call.answer u = .ok (name, m) := by
        cases call with
        | item i => exact ⟨_, _, rfl⟩
        | path p => exact ⟨_, _, rfl⟩
      obtain ⟨answers, v, hrest⟩ := ih m
      refine ⟨name :: answers, v, ?_⟩
      rw [List.mapM_cons]
      exact Writer.bind_eq_ok.2 ⟨name, m, hname, Writer.bind_eq_ok.2 ⟨answers, v, hrest, rfl⟩⟩

end NameCall

namespace Uses.Tidy

variable {u : Uses} {p q a b : String}

/-- Under names that are settled, a path goes by its last segment if it is
declared, and in full otherwise. -/
theorem answer_cases (h : u.Tidy) (ha : (NameCall.path p).answer u = .ok (a, u)) :
    a = TypeExpr.lastSegment p ∧ p ∈ u.paths ∨ a = p ∧ p ∉ u.paths := by
  rcases usePath_cases (Writer.Settled.path_eq_ok.1 ha) with
    ⟨known, hknown, -, hname⟩ | ⟨hnone, -, -, hname⟩ | ⟨-, -, -, hgrown⟩
  · by_cases hsame : known = p
    · rw [if_pos hsame] at hname
      have hentry := mem_names_of_pathOf? hknown
      exact Or.inl ⟨hname, hsame ▸ mem_paths.2 ⟨_, hentry⟩⟩
    · rw [if_neg hsame] at hname
      refine Or.inr ⟨hname, fun hmem => hsame ?_⟩
      rw [h.pathOf?_of_mem hmem] at hknown
      exact (Option.some.inj hknown).symm
  · refine Or.inr ⟨hname, fun hmem => ?_⟩
    rw [h.pathOf?_of_mem hmem] at hnone
    cases hnone
  · have hlength := congrArg (fun v : Uses => v.names.length) hgrown
    simp at hlength

/-- A path goes by a short name if that is what the name stands for. -/
theorem answer_eq_iff (h : u.Tidy) (ha : (NameCall.path p).answer u = .ok (a, u)) (hb : b ≠ p) :
    a = b ↔ u.pathOf? b = some p := by
  rcases h.answer_cases ha with ⟨rfl, hmem⟩ | ⟨rfl, hnot⟩
  · constructor
    · rintro rfl
      exact h.pathOf?_of_mem hmem
    · intro hstands
      exact (h.named _ (mem_names_of_pathOf? hstands)).symm
  · refine iff_of_false hb.symm fun hstands => hnot ?_
    exact mem_paths.2 ⟨b, mem_names_of_pathOf? hstands⟩

/-- Different paths go by different names. -/
theorem answer_inj (h : u.Tidy) (hp : (TypeExpr.cutLast p.toList).isSome = true)
    (hq : (TypeExpr.cutLast q.toList).isSome = true)
    (ha : (NameCall.path p).answer u = .ok (a, u)) (hb : (NameCall.path q).answer u = .ok (b, u)) :
    a = b ↔ p = q := by
  constructor
  · rintro rfl
    rcases h.answer_cases ha with ⟨hlast, hmem⟩ | ⟨hfull, -⟩
    · rcases h.answer_cases hb with ⟨hlast', hmem'⟩ | ⟨hfull', -⟩
      · exact h.lastSegment_inj hmem hmem' (hlast.symm.trans hlast')
      · exact absurd (hfull'.symm.trans hlast) (TypeExpr.ne_lastSegment hq p)
    · rcases h.answer_cases hb with ⟨hlast', -⟩ | ⟨hfull', -⟩
      · exact absurd (hfull.symm.trans hlast') (TypeExpr.ne_lastSegment hp q)
      · exact hfull.symm.trans hfull'
  · rintro rfl
    exact (Prod.mk.inj (Except.ok.inj (ha.symm.trans hb))).1

end Uses.Tidy

/-- Calls for names are answered in whatever order they come. A path is
always called by the same name, and by another than any other path: by its
last segment if it is declared, and in full otherwise. The declarations bind
no name twice, and none of the short names is that of the unit or of an item
of the runtime. -/
theorem calls_told_apart (runtime own : String) (calls : List NameCall)
    (hpaths : ∀ p, .path p ∈ calls → (TypeExpr.cutLast p.toList).isSome = true) :
    ∃ answers uses, (calls.mapM NameCall.answer).run (.start runtime own) = .ok (answers, uses) ∧
      answers.length = calls.length ∧
      (∀ p a q b, (.path p, a) ∈ calls.zip answers → (.path q, b) ∈ calls.zip answers →
        (a = b ↔ p = q)) ∧
      (∀ p a, (.path p, a) ∈ calls.zip answers →
        (a = p ∨ a = TypeExpr.lastSegment p) ∧
        (a = TypeExpr.lastSegment p ↔ "use " ++ p ++ ";" ∈ uses.pathLines)) ∧
      (∀ i a, (.item i, a) ∈ calls.zip answers → a = i.name ∧ a ∈ uses.itemNames) ∧
      uses.declarations = uses.runtimeLine ++ uses.pathLines ∧ uses.runtime = runtime ∧
      uses.bound.Nodup ∧
      (∀ p ∈ uses.paths, .path p ∈ calls ∧ TypeExpr.lastSegment p ≠ own ∧
        ∀ i : RuntimeItem, TypeExpr.lastSegment p ≠ i.name) ∧
      (isSingleLine runtime = true → (∀ p, .path p ∈ calls → isSingleLine p = true) →
        ∃ snippet, linesOf uses.declarations = .ok snippet ∧ snippet.lines = uses.declarations) := by
  obtain ⟨answers, uses, hrun⟩ := NameCall.answer_succeeds calls (.start runtime own)
  obtain ⟨-, htidy, hanswers⟩ :=
    Writer.Settled.mapM_within NameCall.answer_settled hrun (Uses.tidy_start runtime own)
  have hbrought := (Writer.Brings.mapM fun call _ => call.answer_brings).brought hrun
  have hanswer : ∀ {call a}, (call, a) ∈ calls.zip answers → call.answer uses = .ok (a, uses) :=
    (List.forall₂_iff_zip.1 hanswers).2
  have hseveral : ∀ {p a}, (NameCall.path p, a) ∈ calls.zip answers →
      (TypeExpr.cutLast p.toList).isSome = true := fun h => hpaths _ (List.of_mem_zip h).1
  have hcalled : ∀ entry ∈ uses.names, .path entry.2 ∈ calls := by
    intro entry hentry
    obtain ⟨call, hcall, hpath⟩ := List.mem_flatMap.1
      (hbrought.mem_of_start htidy (Uses.mem_paths.2 ⟨entry.1, hentry⟩))
    cases call with
    | item i => cases hpath
    | path p => rwa [List.mem_singleton.1 hpath]
  refine ⟨answers, uses, hrun, hanswers.length_eq.symm, ?_, ?_, ?_, rfl, hbrought.runtime,
    htidy.nodup_bound, ?_, ?_⟩
  · intro p a q b hpa hqb
    exact htidy.answer_inj (hseveral hpa) (hseveral hqb) (hanswer hpa) (hanswer hqb)
  · intro p a hpa
    rw [Uses.mem_pathLines]
    rcases htidy.answer_cases (hanswer hpa) with ⟨hlast, hmem⟩ | ⟨hfull, hnot⟩
    · exact ⟨Or.inr hlast, iff_of_true hlast hmem⟩
    · refine ⟨Or.inl hfull, iff_of_false (fun hlast => ?_) hnot⟩
      exact TypeExpr.ne_lastSegment (hseveral hpa) p (hfull.symm.trans hlast)
  · intro i a hia
    obtain ⟨rfl, huses⟩ := Writer.item_eq_ok.1 (hanswer hia)
    refine ⟨rfl, Uses.mem_itemNames.2 ⟨i, ?_, rfl⟩⟩
    rw [huses]
    exact Uses.mem_useItem uses i
  · intro p hp
    obtain ⟨name, hentry⟩ := Uses.mem_paths.1 hp
    have hfree := Uses.isReserved_eq_false.1 (htidy.isReserved_lastSegment hp)
    rw [hbrought.own] at hfree
    exact ⟨hcalled _ hentry, hfree⟩
  · intro hruntime hsingle
    have hline : isSingleLine uses.runtime = true := hbrought.runtime ▸ hruntime
    obtain ⟨snippet, hsnippet⟩ := (Fits.linesOf uses.declarations).iff.2
      ((Uses.allSingle_declarations hline).2 ⟨hline, fun entry hentry =>
        hsingle _ (hcalled entry hentry)⟩)
    exact ⟨snippet, hsnippet, Lines.pushAll_lines hsnippet⟩

/-- Calls in the unit of users for types of that name, for a type with the
name of the unit, and for one with the name of an item. -/
def clashingCalls : List NameCall :=
  [.item .row, .path "crate::model::User", .path "crate::legacy::User", .path "crate::model::User",
    .path "crate::other::UserTable", .path "crate::other::Row"]

theorem calls_told_apart_clashing :
    (∀ p, .path p ∈ clashingCalls → (TypeExpr.cutLast p.toList).isSome = true) ∧
    ∃ answers uses,
      (clashingCalls.mapM NameCall.answer).run (.start "archgen_runtime" "UserTable") =
        .ok (answers, uses) ∧
      (∀ p a q b, (.path p, a) ∈ clashingCalls.zip answers →
        (.path q, b) ∈ clashingCalls.zip answers → (a = b ↔ p = q)) ∧
      uses.bound.Nodup := by
  have hpaths : ∀ p, .path p ∈ clashingCalls → (TypeExpr.cutLast p.toList).isSome = true := by
    have hall : ∀ call ∈ clashingCalls, ∀ p ∈ call.paths,
        (TypeExpr.cutLast p.toList).isSome = true := by
      decide
    exact fun p hp => hall _ hp p (List.mem_singleton_self p)
  obtain ⟨answers, uses, hrun, -, htold, -, -, -, -, hnodup, -⟩ :=
    calls_told_apart "archgen_runtime" "UserTable" clashingCalls hpaths
  exact ⟨hpaths, answers, uses, hrun, htold, hnodup⟩

example : ((clashingCalls.mapM NameCall.answer).run (.start "archgen_runtime" "UserTable")).map
    (fun r => (r.1, r.2.declarations)) =
      .ok (["Row", "User", "crate::legacy::User", "User", "crate::other::UserTable",
        "crate::other::Row"], ["use archgen_runtime::Row;", "use crate::model::User;"]) := by
  decide +kernel

end Rowsmith.Emit

/-
The names of a unit.

How a unit calls a type is decided while it is written, by the names that
are in scope at that moment, and names are brought into scope all along.
Still the unit calls a type the same wherever it does: a short name is
given to the first path that ends in it and never taken back, and a path
that was written in full once has no short name later either.

So nothing depends on when it was written (`Settled`). What a step writes
it would also write, and bring nothing more into scope, once every name of
the unit is there. What is said of a step can then be said of the names that
the file declares at its top.

# Main results

Each step in writing a unit is settled (`tableFunctions_settled`,
`createInstanceFunction_settled`, `fillValuesFunction_settled`). Under all the
names of a unit, what a type is called by stands for the path of the type and
for nothing else (`Uses.standsFor_of_usePath`).
-/
import Mathlib.Data.List.Nodup
import Rowsmith.Emit.AdapterUnit
import Rowsmith.Proofs.Writing.Code

namespace Rowsmith.Emit

open Text

-- ======================================================== names in scope

namespace Uses

variable {u v w : Uses} {name path : String}

/-- Names are brought into scope and none is taken back. -/
structure GrowsTo (u v : Uses) : Prop where
  own : v.own = u.own
  items : u.items <+: v.items
  names : u.names <+: v.names

namespace GrowsTo

theorem refl (u : Uses) : u.GrowsTo u := ⟨rfl, List.prefix_rfl, List.prefix_rfl⟩

theorem trans (h : u.GrowsTo v) (h' : v.GrowsTo w) : u.GrowsTo w where
  own := h'.own.trans h.own
  items := h.items.trans h'.items
  names := h.names.trans h'.names

/-- A name goes on standing for its path. -/
theorem pathOf? (h : u.GrowsTo v) (hname : u.pathOf? name = some path) :
    v.pathOf? name = some path := by
  obtain ⟨more, hnames⟩ := h.names
  obtain ⟨entry, hentry, hpath⟩ := Option.map_eq_some_iff.1 hname
  unfold Uses.pathOf?
  rw [← hnames, List.find?_append, hentry]
  exact congrArg some hpath

theorem isReserved (h : u.GrowsTo v) : v.isReserved name = u.isReserved name := by
  unfold Uses.isReserved
  rw [h.own]

end GrowsTo

/-- Every name in scope is the last segment of the path that it stands for,
none is in scope twice, and none is one that the unit or the runtime has. -/
structure Tidy (u : Uses) : Prop where
  nodup : (u.names.map (·.1)).Nodup
  named : ∀ entry ∈ u.names, entry.1 = TypeExpr.lastSegment entry.2
  free : ∀ entry ∈ u.names, u.isReserved entry.1 = false

theorem tidy_start (runtime own : String) : (start runtime own).Tidy where
  nodup := List.nodup_nil
  named _ h := nomatch h
  free _ h := nomatch h

theorem mem_names_of_pathOf? (h : u.pathOf? name = some path) : (name, path) ∈ u.names := by
  obtain ⟨⟨name', path'⟩, hentry, hpath⟩ := Option.map_eq_some_iff.1 h
  obtain rfl : path' = path := hpath
  have hfound : decide (name' = name) = true :=
    @List.find?_some _ (fun entry : String × String => decide (entry.1 = name)) _ _ hentry
  rw [← of_decide_eq_true hfound]
  exact List.mem_of_find?_eq_some hentry

theorem Tidy.pathOf?_eq_none (h : u.Tidy) (hreserved : u.isReserved name = true) :
    u.pathOf? name = none := by
  cases hname : u.pathOf? name with
  | none => rfl
  | some path =>
      have hfree := h.free _ (mem_names_of_pathOf? hname)
      rw [hreserved] at hfree
      cases hfree

theorem growsTo_useItem (u : Uses) (item : RuntimeItem) : u.GrowsTo (u.useItem item) := by
  unfold useItem
  by_cases h : u.items.contains item = true
  · rw [if_pos h]
    exact .refl u
  · rw [if_neg h]
    exact ⟨rfl, List.prefix_append _ _, List.prefix_rfl⟩

theorem useItem_of_mem {item : RuntimeItem} (h : item ∈ u.items) : u.useItem item = u := by
  unfold useItem
  rw [if_pos (List.contains_iff_mem.2 h)]

theorem mem_useItem (u : Uses) (item : RuntimeItem) : item ∈ (u.useItem item).items := by
  unfold useItem
  by_cases h : u.items.contains item = true
  · rw [if_pos h]
    exact List.contains_iff_mem.1 h
  · rw [if_neg h]
    exact List.mem_append_right _ List.mem_cons_self

theorem Tidy.useItem (h : u.Tidy) (item : RuntimeItem) : (u.useItem item).Tidy := by
  unfold Uses.useItem
  by_cases hitem : u.items.contains item = true
  · rw [if_pos hitem]
    exact h
  · rw [if_neg hitem]
    exact ⟨h.nodup, h.named, h.free⟩

/-- A type goes by its short name if that stands for its path, and in full
if it stands for another; a short name that stands for nothing yet is given
to the path unless it is reserved. -/
theorem usePath_cases (h : u.usePath path = (name, v)) :
    (∃ known, u.pathOf? (TypeExpr.lastSegment path) = some known ∧ v = u ∧
      name = if known = path then TypeExpr.lastSegment path else path) ∨
    (u.pathOf? (TypeExpr.lastSegment path) = none ∧
      u.isReserved (TypeExpr.lastSegment path) = true ∧ v = u ∧ name = path) ∨
    (u.pathOf? (TypeExpr.lastSegment path) = none ∧
      u.isReserved (TypeExpr.lastSegment path) = false ∧ name = TypeExpr.lastSegment path ∧
      v = { u with names := u.names ++ [(TypeExpr.lastSegment path, path)] }) := by
  unfold usePath at h
  dsimp only at h
  cases hname : u.pathOf? (TypeExpr.lastSegment path) with
  | some known =>
      rw [hname] at h
      obtain ⟨rfl, rfl⟩ := Prod.mk.inj h
      exact Or.inl ⟨known, rfl, rfl, rfl⟩
  | none =>
      rw [hname] at h
      by_cases hreserved : u.isReserved (TypeExpr.lastSegment path) = true
      · rw [if_pos hreserved] at h
        obtain ⟨rfl, rfl⟩ := Prod.mk.inj h
        exact Or.inr (Or.inl ⟨rfl, hreserved, rfl, rfl⟩)
      · rw [if_neg hreserved] at h
        obtain ⟨rfl, rfl⟩ := Prod.mk.inj h
        exact Or.inr (Or.inr ⟨rfl, Bool.not_eq_true _ ▸ hreserved, rfl, rfl⟩)

/-- A name that is brought into scope is free and stands for nothing
else. -/
theorem Tidy.concat (h : u.Tidy) (hnone : u.pathOf? (TypeExpr.lastSegment path) = none)
    (hfree : u.isReserved (TypeExpr.lastSegment path) = false) :
    { u with names := u.names ++ [(TypeExpr.lastSegment path, path)] : Uses }.Tidy := by
  constructor
  case nodup =>
    rw [List.map_append, List.nodup_append]
    refine ⟨h.nodup, List.nodup_singleton _, ?_⟩
    intro known hknown name hname
    obtain rfl := List.mem_singleton.1 hname
    obtain ⟨entry, hentry, rfl⟩ := List.mem_map.1 hknown
    intro hsame
    have hnone := List.find?_eq_none.1 (Option.map_eq_none_iff.1 hnone) entry hentry
    exact hnone (decide_eq_true hsame)
  case named =>
    rw [List.forall_mem_append]
    refine ⟨h.named, ?_⟩
    intro entry hentry
    obtain rfl := List.mem_singleton.1 hentry
    rfl
  case free =>
    rw [List.forall_mem_append]
    refine ⟨h.free, ?_⟩
    intro entry hentry
    obtain rfl := List.mem_singleton.1 hentry
    exact hfree

theorem mem_paths : path ∈ u.paths ↔ ∃ name, (name, path) ∈ u.names := by
  unfold paths
  rw [List.mem_eraseDups, List.mem_mergeSort, List.mem_map]
  exact ⟨fun ⟨entry, h, hpath⟩ => ⟨entry.1, hpath ▸ h⟩, fun ⟨name, h⟩ => ⟨_, h, rfl⟩⟩

/-- A name stands for a path in a unit: it is the path in full, or it is
brought into scope by the declaration of this path. Then it is not a name of
the unit or of the runtime, and no other path in use ends in it. -/
def StandsFor (u : Uses) (name path : String) : Prop :=
  name = path ∨
    name = TypeExpr.lastSegment path ∧ "use " ++ path ++ ";" ∈ u.declarations ∧
      u.isReserved name = false ∧
      ∀ other ∈ u.paths, TypeExpr.lastSegment other = name → other = path

/-- A type that is called by a name without bringing it into scope is what
the name stands for. -/
theorem standsFor_of_usePath (htidy : u.Tidy) (h : u.usePath path = (name, u)) :
    u.StandsFor name path := by
  rcases usePath_cases h with ⟨known, hknown, -, hname⟩ | ⟨-, -, -, hname⟩ | ⟨-, -, -, hgrown⟩
  · by_cases hpath : known = path
    · rw [if_pos hpath] at hname
      rw [hpath] at hknown
      have hentry := mem_names_of_pathOf? hknown
      refine Or.inr ⟨hname, ?_, ?_, ?_⟩
      · exact List.mem_append_right _ (List.mem_map_of_mem (mem_paths.2 ⟨_, hentry⟩))
      · rw [hname]
        exact htidy.free _ hentry
      · intro other hother hlast
        obtain ⟨name', hother⟩ := mem_paths.1 hother
        have hname' : name' = TypeExpr.lastSegment path :=
          (htidy.named _ hother).trans (hlast.trans hname)
        have hsame := List.inj_on_of_nodup_map htidy.nodup hother hentry hname'
        exact congrArg Prod.snd hsame
    · rw [if_neg hpath] at hname
      exact Or.inl hname
  · exact Or.inl hname
  · -- a name that is brought into scope was not there before
    have hlength := congrArg (fun v : Uses => v.names.length) hgrown
    simp at hlength

end Uses

-- ======================================================== settled steps

namespace Writer

variable {α β γ : Type} {x : Writer α} {f : α → Writer β} {u v : Uses} {a : α} {b : β}

/-- A step brings names into scope, takes none back and keeps them tidy. It
writes the same where all its names, and any others, are in scope. -/
structure Settled (x : Writer α) : Prop where
  grows : ∀ {u v : Uses} {a : α}, x u = .ok (a, v) → u.GrowsTo v
  tidy : ∀ {u v : Uses} {a : α}, x u = .ok (a, v) → u.Tidy → v.Tidy
  within : ∀ {u v w : Uses} {a : α}, x u = .ok (a, v) → v.GrowsTo w → w.Tidy → x w = .ok (a, w)

namespace Settled

theorem pure (a : α) : Settled (Pure.pure a : Writer α) := by
  constructor
  case grows =>
    intro u v b h
    rw [(pure_eq_ok.1 h).2]
    exact .refl u
  case tidy =>
    intro u v b h htidy
    rw [(pure_eq_ok.1 h).2]
    exact htidy
  case within =>
    intro u v w b h _ _
    exact pure_eq_ok.2 ⟨(pure_eq_ok.1 h).1, rfl⟩

theorem lift (x : Except Defect α) : Settled (liftM x : Writer α) := by
  constructor
  case grows =>
    intro u v b h
    rw [(lift_eq_ok.1 h).2]
    exact .refl u
  case tidy =>
    intro u v b h htidy
    rw [(lift_eq_ok.1 h).2]
    exact htidy
  case within =>
    intro u v w b h _ _
    exact lift_eq_ok.2 ⟨(lift_eq_ok.1 h).1, rfl⟩

theorem bind (hx : Settled x) (hf : ∀ a, Settled (f a)) : Settled (x >>= f) := by
  constructor
  case grows =>
    intro u v b h
    obtain ⟨a, m, hxa, hfb⟩ := bind_eq_ok.1 h
    exact (hx.grows hxa).trans ((hf a).grows hfb)
  case tidy =>
    intro u v b h htidy
    obtain ⟨a, m, hxa, hfb⟩ := bind_eq_ok.1 h
    exact (hf a).tidy hfb (hx.tidy hxa htidy)
  case within =>
    intro u v w b h hgrows htidy
    obtain ⟨a, m, hxa, hfb⟩ := bind_eq_ok.1 h
    have hxw := hx.within hxa (((hf a).grows hfb).trans hgrows) htidy
    exact bind_eq_ok.2 ⟨a, w, hxw, (hf a).within hfb hgrows htidy⟩

theorem map (hx : Settled x) (g : α → β) : Settled (g <$> x) := by
  rw [map_eq_pure_bind]
  exact hx.bind fun a => .pure (g a)

theorem item (i : RuntimeItem) : Settled (Writer.item i) := by
  constructor
  case grows =>
    intro u v name h
    rw [(item_eq_ok.1 h).2]
    exact u.growsTo_useItem i
  case tidy =>
    intro u v name h htidy
    rw [(item_eq_ok.1 h).2]
    exact htidy.useItem i
  case within =>
    intro u v w name h hgrows _
    obtain ⟨hname, rfl⟩ := item_eq_ok.1 h
    have hitem := hgrows.items.subset (u.mem_useItem i)
    exact item_eq_ok.2 ⟨hname, (Uses.useItem_of_mem hitem).symm⟩

theorem path_eq_ok {p name : String} :
    Writer.path p u = .ok (name, v) ↔ u.usePath p = (name, v) := by
  show Except.ok (u.usePath p) = .ok (name, v) ↔ _
  rw [Except.ok.injEq]

theorem path (p : String) : Settled (Writer.path p) := by
  constructor
  case grows =>
    intro u v name h
    rcases Uses.usePath_cases (path_eq_ok.1 h) with
      ⟨-, -, rfl, -⟩ | ⟨-, -, rfl, -⟩ | ⟨-, -, -, rfl⟩
    · exact .refl v
    · exact .refl v
    · exact ⟨rfl, List.prefix_rfl, List.prefix_append _ _⟩
  case tidy =>
    intro u v name h htidy
    rcases Uses.usePath_cases (path_eq_ok.1 h) with
      ⟨-, -, rfl, -⟩ | ⟨-, -, rfl, -⟩ | ⟨hnone, hfree, -, rfl⟩
    · exact htidy
    · exact htidy
    · exact htidy.concat hnone hfree
  case within =>
    intro u v w name h hgrows htidy
    refine path_eq_ok.2 ?_
    unfold Uses.usePath
    dsimp only
    rcases Uses.usePath_cases (path_eq_ok.1 h) with
      ⟨known, hknown, rfl, hname⟩ | ⟨-, hreserved, rfl, hname⟩ | ⟨hnone, hfree, hname, rfl⟩
    · rw [hgrows.pathOf? hknown, hname]
    · rw [← hgrows.isReserved] at hreserved
      rw [htidy.pathOf?_eq_none hreserved, if_pos hreserved, hname]
    · have hgiven : { u with
          names := u.names ++ [(TypeExpr.lastSegment p, p)] : Uses }.pathOf?
            (TypeExpr.lastSegment p) = some p := by
        unfold Uses.pathOf? at hnone ⊢
        rw [List.find?_append, Option.map_eq_none_iff.1 hnone]
        simp
      rw [hgrows.pathOf? hgiven, hname]
      exact congrArg (·, w) (if_pos rfl)

theorem foldlM {step : β → γ → Writer β} (h : ∀ b c, Settled (step b c)) (l : List γ) (b : β) :
    Settled (l.foldlM step b) := by
  induction l generalizing b with
  | nil => exact .pure b
  | cons c l ih =>
      rw [List.foldlM_cons]
      exact (h b c).bind fun b => ih b

/-- A loop takes a step for each of its items, and the steps after it keep
the lines that it wrote. -/
theorem foldlM_mem (lines : β → List String) {step : β → γ → Writer β}
    (hstep : ∀ b c, Settled (step b c))
    (hkeep : ∀ b c u b' v, step b c u = .ok (b', v) → lines b ⊆ lines b')
    {l : List γ} {c : γ} (hc : c ∈ l) {b b' : β} (h : l.foldlM step b u = .ok (b', v)) :
    ∃ m m' u₁ u₂, step m c u₁ = .ok (m', u₂) ∧ u₂.GrowsTo v ∧ lines m' ⊆ lines b' := by
  have hkeepAll : ∀ (l : List γ) (b : β) (u : Uses), l.foldlM step b u = .ok (b', v) →
      lines b ⊆ lines b' := by
    intro l
    induction l with
    | nil =>
        intro b u h
        rw [(pure_eq_ok.1 h).1]
        exact List.Subset.refl _
    | cons d l ih =>
        intro b u h
        obtain ⟨m, u₁, hfirst, hrest⟩ := bind_eq_ok.1 h
        exact List.Subset.trans (hkeep b d u m u₁ hfirst) (ih m u₁ hrest)
  induction l generalizing b u with
  | nil => cases hc
  | cons d l ih =>
      obtain ⟨m, u₁, hfirst, hrest⟩ := bind_eq_ok.1 h
      rcases List.mem_cons.1 hc with rfl | hc
      · exact ⟨b, m, u, u₁, hfirst, (foldlM hstep l m).grows hrest, hkeepAll l m u₁ hrest⟩
      · exact ih hc hrest

end Settled

end Writer

-- ======================================================= steps of a unit

section

open Writer (Settled)

theorem adapterName_settled (target : Target) (adapter : AdapterName) :
    Settled (adapterName target adapter) := by
  cases adapter with
  | provided path =>
      unfold adapterName
      dsimp only
      split
      · exact .path _
      · exact .pure _
  | generated type => exact .path _

theorem convertedCode_settled (m : Conversion) (stored : String) (optional : Bool) :
    Settled (convertedCode m stored optional) := by
  unfold convertedCode
  dsimp only
  cases m.namedType? with
  | some type => exact .bind (.path _) fun _ => .bind (.pure _) fun _ => .pure _
  | none => exact .bind (.pure _) fun _ => .pure _

theorem policyFunction_settled (name result : String) (arm : FollowPolicy → String) :
    Settled (policyFunction name result arm) :=
  .bind (.item _) fun _ => .bind (.lift _) fun _ => .bind (.lift _) fun _ => .lift _

theorem createTableFunction_settled (s : Schema) (t : Table) :
    Settled (createTableFunction s t) := by
  refine .bind (.item _) fun flavorType => .bind (.foldlM (fun arms flavor => ?_) _ _) fun _ => ?_
  · exact .bind (.lift _) fun _ => .lift _
  · exact .bind (.lift _) fun _ => .lift _

theorem WriteCode.add_settled (target : Target) (code : WriteCode) (write : FieldWrite) :
    Settled (code.add target write) := by
  cases write with
  | stored field => exact .bind (.item _) fun _ => .bind (.lift _) fun _ => .pure _
  | converted field conversion optional =>
      exact .bind (.item _) fun _ => .bind (.lift _) fun _ => .pure _
  | filled field adapter optional start count =>
      refine .bind (adapterName_settled target adapter) fun name => ?_
      exact .bind (.lift _) fun _ => .bind (.lift _) fun _ => .pure _

theorem valuesFunction_settled (target : Target) (name model : String)
    (fields : List TableField) : Settled (valuesFunction target name model fields) := by
  refine .bind (.item _) fun value => .bind (.foldlM (WriteCode.add_settled target) _ _) fun code => ?_
  dsimp only
  split
  · exact .bind (.lift _) fun _ => .lift _
  · exact .bind (.lift _) fun _ => .bind (.lift _) fun _ => .lift _

variable (s : Schema) (target : Target) (id : TableId)

theorem accessorName_settled (r : Reference) : Settled (accessorName s target id r) := by
  unfold accessorName
  split
  · exact .pure _
  · exact .bind (.lift _) fun _ => .path _

theorem presentCode_settled (read : ReferenceRead) (arm : ReferenceArm) (key : String) :
    Settled (presentCode s target id read arm key) := by
  unfold presentCode
  dsimp only
  split
  · refine .bind (accessorName_settled s target id _) fun accessor => ?_
    exact .bind (.item _) fun _ => .bind (.pure _) fun _ => .pure _
  · exact .bind (.pure _) fun _ => .pure _

theorem armCode_settled (read : ReferenceRead) (arm : ReferenceArm) :
    Settled (armCode s target id read arm) := by
  have hpresent := presentCode_settled s target id read arm
  refine .bind (.item _) fun _ => ?_
  dsimp only
  split
  · refine .bind (.lift _) fun absent => .bind (hpresent _) fun present => ?_
    exact .bind (.lift _) fun _ => .bind (.lift _) fun _ => .lift _
  · split
    · exact .bind (hpresent _) fun _ => .lift _
    · exact .bind (hpresent _) fun _ => .lift _

theorem readCode_settled (read : FieldRead) : Settled (readCode s target id read) := by
  cases read with
  | column getter => exact .lift _
  | converted getter conversion =>
      exact .bind (convertedCode_settled _ _ _) fun _ => .lift _
  | assembled adapter getters optional =>
      exact .bind (adapterName_settled target adapter) fun _ => .lift _
  | reference read =>
      refine .bind (.item _) fun policyType => .bind (.foldlM (fun arms arm => ?_) _ _) fun _ =>
        .lift _
      refine .bind (armCode_settled s target id read arm) fun code => ?_
      exact .bind (.lift _) fun _ => .pure _

theorem fromRowFunction_settled (t : Table) (model : String) :
    Settled (fromRowFunction s target t model) := by
  refine .bind (.item _) fun row => .bind (.item _) fun policyType => .bind (.item _) fun rowError =>
    .bind (.foldlM (fun fields f => ?_) _ _) fun fields => ?_
  · refine .bind (.lift _) fun read => .bind (readCode_settled s target t.id read) fun code => ?_
    exact .bind (.lift _) fun _ => .pure _
  · exact .bind (.lift _) fun _ => .bind (.lift _) fun _ => .lift _

theorem tableFunctions_settled (t : Table) (model : String) :
    Settled (tableFunctions s target t model) := by
  have hvalues := fun name => valuesFunction_settled target name model
  refine .bind (policyFunction_settled _ _ _) fun select => ?_
  -- whether there is a key or not, what follows is the same
  dsimp only
  split
  case' isTrue => refine .bind ((policyFunction_settled _ _ _).map _) fun byKey? => ?_
  case' isFalse => refine .bind (.pure none) fun byKey? => ?_
  all_goals
    refine .bind (policyFunction_settled _ _ _) fun columnCount => ?_
    refine .bind (createTableFunction_settled s t) fun create => ?_
    refine .bind (hvalues _ _) fun values => ?_
    cases updateFields? t with
    | some fields =>
        refine .bind ((hvalues _ fields).map _) fun update => ?_
        exact .bind (fromRowFunction_settled s target t model) fun _ => .pure _
    | none =>
        refine .bind (.pure none) fun update => ?_
        exact .bind (fromRowFunction_settled s target t model) fun _ => .pure _

theorem buildCode_settled (build : PartBuild) : Settled (buildCode target build) := by
  cases build with
  | given param => exact .pure _
  | converted param conversion optional => exact convertedCode_settled _ _ _
  | assembled adapter params =>
      exact .bind (adapterName_settled target adapter) fun _ => .pure _

theorem createInstanceFunction_settled (x : Structure) (type : String) :
    Settled (createInstanceFunction target x type) := by
  refine .bind (.foldlM (fun fields entry => ?_) _ _) fun fields => ?_
  · exact .bind (buildCode_settled target entry.2) fun _ => .lift _
  · exact .bind (.lift _) fun _ => .bind (.lift _) fun _ => .lift _

theorem writeCode_settled (head : PartHead) (write : PartWrite) :
    Settled (writeCode target head write) := by
  cases write with
  | stored slot => exact .bind (.item _) fun _ => .lift _
  | converted slot conversion optional => exact .bind (.item _) fun _ => .lift _
  | filled slot adapter => exact .bind (adapterName_settled target adapter) fun _ => .lift _

theorem fillValuesFunction_settled (x : Structure) (type : String) :
    Settled (fillValuesFunction target x type) := by
  refine .bind (.item _) fun value => .bind (.foldlM (fun body entry => ?_) _ _) fun _ => .lift _
  exact .bind (writeCode_settled target entry.1 entry.2) fun _ => .pure _

theorem newValuesFunction_settled (type : String) (count : Nat) :
    Settled (newValuesFunction type count) :=
  .bind (.item _) fun _ => .bind (.lift _) fun _ => .lift _

end

/-- The functions of a table include those that write its fields and the one
that reads them. -/
theorem tableFunctions_include {s : Schema} {target : Target} {t : Table} {model : String}
    {u v : Uses} {functions : List Lines}
    (h : tableFunctions s target t model u = .ok (functions, v)) :
    (∃ values u₁ u₂, valuesFunction target "values" model t.fields u₁ = .ok (values, u₂) ∧
      u₂.GrowsTo v ∧ values ∈ functions) ∧
    ∃ fromRow u₁, fromRowFunction s target t model u₁ = .ok (fromRow, v) ∧
      fromRow ∈ functions := by
  obtain ⟨select, u₁, -, h⟩ := Writer.bind_eq_ok.1 h
  obtain ⟨byKey?, u₂, -, h⟩ := Writer.ite_bind_eq_ok.1 h
  obtain ⟨columnCount, u₃, -, h⟩ := Writer.bind_eq_ok.1 h
  obtain ⟨create, u₄, -, h⟩ := Writer.bind_eq_ok.1 h
  obtain ⟨values, u₅, hvalues, h⟩ := Writer.bind_eq_ok.1 h
  have hrest : ∃ update? u₆, u₅.GrowsTo u₆ ∧ (do
      let fromRow ← fromRowFunction s target t model
      return [some select, byKey?, some columnCount, some create, some values, update?,
        some fromRow].filterMap id : Writer (List Lines)) u₆ = .ok (functions, v) := by
    cases hfields : updateFields? t with
    | some fields =>
        rw [hfields] at h
        obtain ⟨update?, u₆, hupdate, h⟩ := Writer.bind_eq_ok.1 h
        have hsettled := (valuesFunction_settled target "values_for_update" model fields).map some
        exact ⟨update?, u₆, hsettled.grows hupdate, h⟩
    | none =>
        rw [hfields] at h
        obtain ⟨update?, u₆, hupdate, h⟩ := Writer.bind_eq_ok.1 h
        exact ⟨update?, u₆, (Writer.Settled.pure none).grows hupdate, h⟩
  obtain ⟨update?, u₆, hgrows, h⟩ := hrest
  obtain ⟨fromRow, u₇, hfromRow, h⟩ := Writer.bind_eq_ok.1 h
  obtain ⟨rfl, rfl⟩ := Writer.pure_eq_ok.1 h
  have hfromRowGrows := (fromRowFunction_settled s target t model).grows hfromRow
  refine ⟨⟨values, u₄, u₅, hvalues, hgrows.trans hfromRowGrows, ?_⟩, fromRow, u₆, hfromRow, ?_⟩
  · exact List.mem_filterMap.2 ⟨some values, by simp, rfl⟩
  · exact List.mem_filterMap.2 ⟨some fromRow, by simp, rfl⟩

end Rowsmith.Emit

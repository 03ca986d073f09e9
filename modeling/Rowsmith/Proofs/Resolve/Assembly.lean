/-
How the nested structures of a schema come about, whatever answers were
given.

A run finishes one structure at a time. When a structure is finished its
type is new, and each of its parts that is a structure was finished
before. `Assembled` says this of a list of structures, one constructor for
each that is finished, and a run does nothing but extend such a list
(`structureWithin_assembled`). So what holds of all structures is shown by
induction on the list, without looking at the run again: that they stand
in the order in which they need each other (`Assembled.ordered`), and that
each has a column (`Assembled.columnCount_pos`).

# What is in use

Nothing is finished that is not asked for. A structure is finished on the
way to another, which then has it among its parts, or for a field of a
table, or because it was requested. Who will hold it is not finished at
that moment, so the invariant cannot be about the progress alone: what is
known of each step is that whatever it adds is comprised by the value the
step gives (`structureWithin_comprises`, `tableField_comprises`).

Main result: `structures_in_use`.
-/
import Rowsmith.Proofs.Resolve.Nesting
import Rowsmith.Proofs.Resolve.Structures

namespace Rowsmith

variable {env : Setting} {p p' : Progress} {done structures : List Structure}
  {type : TypeExpr} {s : Structure} {enclosing : List TypeExpr} {room : Nat}

-- ============================================================== assembly

/-- A type is nested as a finished structure of this type. -/
def NestsAmong (done : List Structure) (type : TypeExpr) (s : Structure) : Prop :=
  s.type = type ∧ s ∈ done

/-- A structure is made over finished ones: its type is new, it has parts,
and they are resolved from the fields that some answer gave for its type.
A part that is a structure is a finished one. -/
structure Structure.MadeOver (env : Setting) (done : List Structure) (s : Structure) : Prop where
  fresh : ∀ s' ∈ done, s'.type ≠ s.type
  resolved : ∃ asked decls, env.answers asked s.type = .ok decls ∧ decls ≠ [] ∧
    List.Forall₂ (Part.ResolvedFrom env.locator (NestsAmong done) s.type) decls s.parts

/-- Structures that were finished one after the other, each made over those
before it. -/
inductive Assembled (env : Setting) : List Structure → Prop
  | nil : Assembled env []
  | snoc {done : List Structure} {s : Structure} (rest : Assembled env done)
      (made : s.MadeOver env done) : Assembled env (done ++ [s])

/-- A part that is a structure is a finished one of the type that the part
declares. -/
theorem Structure.MadeOver.nested (h : s.MadeOver env done) {head : PartHead} {inner : Structure}
    (hpart : .nested head inner.type inner.parts ∈ s.parts) :
    inner ∈ done ∧ inner.type = head.type := by
  obtain ⟨_, decls, -, -, hparts⟩ := h.resolved
  obtain ⟨f, -, hresolved⟩ := Related.exists_mem hparts.flip hpart
  obtain ⟨-, htype, hdone⟩ := Part.ResolvedFrom.nested hresolved
  exact ⟨hdone, htype⟩

theorem Structure.MadeOver.listedIn (h : s.MadeOver env done) :
    ∀ part ∈ s.parts, part.ListedIn done := by
  intro part hpart
  cases part with
  | nested head type parts =>
      have hinner : ⟨type, parts⟩ ∈ done ∧ _ := h.nested hpart
      exact hinner.1
  | _ => trivial

/-- Assembled structures are a library: one for each type, with all that
they are made of. -/
theorem Assembled.library (h : Assembled env structures) : Library structures := by
  induction h with
  | nil => exact .nil
  | snoc _ made ih => exact ih.append made.fresh made.listedIn

/-- A structure is made over those that stand before it. -/
theorem Assembled.madeOver (h : Assembled env structures) {before after : List Structure}
    (hs : structures = before ++ s :: after) : s.MadeOver env before := by
  induction h generalizing after with
  | nil => simp at hs
  | @snoc done last rest made ih =>
      -- either it was finished last, or it was there before
      rcases List.eq_nil_or_concat after with rfl | ⟨after', last', rfl⟩
      · obtain ⟨rfl, hlast⟩ := List.append_inj' hs rfl
        obtain rfl := List.singleton_inj.1 hlast
        exact made
      · have hs' : done ++ [last] = (before ++ s :: after') ++ [last'] := by simpa using hs
        obtain ⟨hdone, -⟩ := List.append_inj' hs' rfl
        exact ih hdone

/-- A structure stands after all that it is made of. -/
theorem Assembled.ordered (h : Assembled env structures) {before after : List Structure}
    (hs : structures = before ++ s :: after) : ∀ part ∈ s.parts, part.ListedIn before :=
  (h.madeOver hs).listedIn

-- =============================================================== columns

/-- A part has a column, if the structures it may be have one. -/
theorem Part.ResolvedFrom.columnCount_pos {nests : TypeExpr → Structure → Prop} {f : FieldDecl}
    {part : Part} (h : part.ResolvedFrom env.locator nests type f)
    (hnests : ∀ type s, nests type s → 0 < s.columnCount) : 0 < part.columnCount := by
  obtain ⟨v, x, hv, hx, hfor⟩ := h
  cases x with
  | reference r => cases hfor
  | native storage =>
      cases hfor
      exact Nat.one_pos
  | mapped conversion =>
      cases hfor
      exact Nat.one_pos
  | adapted adapter =>
      obtain ⟨-, hfor⟩ := Option.ite_none_left_eq_some.1 hfor
      cases hfor
      exact List.length_pos_iff.2 (hx.adapted hv)
  | nested s =>
      obtain ⟨-, hfor⟩ := Option.ite_none_left_eq_some.1 hfor
      cases hfor
      exact hnests _ s (hx.nested hv)

/-- Every structure has a column. -/
theorem Assembled.columnCount_pos (h : Assembled env structures) :
    ∀ s ∈ structures, 0 < s.columnCount := by
  induction h with
  | nil => exact fun s hs => nomatch hs
  | @snoc done last _ made ih =>
      intro s hs
      rcases List.mem_append.1 hs with hs | hs
      · exact ih s hs
      -- the first part of the last structure has a column
      obtain rfl := List.mem_singleton.1 hs
      obtain ⟨_, decls, -, hsome, hparts⟩ := made.resolved
      unfold Structure.columnCount
      generalize s.parts = parts at hparts
      cases hparts with
      | nil => exact absurd rfl hsome
      | cons hpart _ =>
          have hpos := hpart.columnCount_pos fun _ s' hs' => ih s' hs'.2
          rw [Part.columnCountAll]
          omega

-- ================================================================= runs

/-- Resolving a structure extends the assembled ones. -/
theorem structureWithin_assembled (hp : Assembled env p.structures)
    (h : structureWithin env room enclosing type p = .ok (s, p')) :
    Assembled env p'.structures := by
  induction room generalizing enclosing type s p p' with
  | zero =>
      rcases structureWithin_eq_ok.1 h with ⟨-, rfl⟩ | ⟨-, -, room, _, _, _, hroom, -⟩
      · exact hp
      · cases hroom
  | succ room ih =>
      rcases structureWithin_eq_ok.1 h with
        ⟨-, rfl⟩ | ⟨hunknown, -, room', fields, parts, q, hroom, hanswer, hsome, hparts, rfl, rfl⟩
      · exact hp
      obtain rfl := Nat.succ.inj hroom
      have hstart : Assembled env { p with asked := p.asked ++ [type] }.structures := hp
      obtain ⟨hq, hresolved, -⟩ := Step.mapM_ok (fun q => Assembled env q.structures)
        (fun f part q => part.ResolvedFrom env.locator (NestsAmong q.structures) type f)
        (fun f _ part q q' hq hpart => by
          obtain ⟨v, x, hv, hx, hfor⟩ := resolvePart_eq_ok.1 hpart
          have hkept : q.structures ⊆ q'.structures :=
            (hx.continues fun _ _ _ _ hs => structureWithin_continues hs).structures.subset
          have hmono : ∀ f' part', Part.ResolvedFrom env.locator (NestsAmong q.structures) type
              f' part' → part'.ResolvedFrom env.locator (NestsAmong q'.structures) type f' :=
            fun f' part' hpart' => hpart'.mono fun _ _ hs => ⟨hs.1, hkept hs.2⟩
          cases v with
          | settled y =>
              obtain ⟨hy, rfl⟩ := hx
              exact ⟨hq, ⟨_, x, hv, hy, hfor⟩, hmono⟩
          | reference request => cases model_of_verdict?_reference hv
          | nested inner =>
              obtain ⟨s, hs, hx⟩ := hx
              exact ⟨ih hq hs, ⟨_, x, hv, ⟨s, hx, structureWithin_known hs⟩, hfor⟩, hmono⟩)
        hstart hparts
      -- nothing was added for the type in the meantime
      have hfresh := (resolveParts_addsOutside structureWithin_nestsOutside hstart.library
        hparts).1.fresh (p := { p with asked := p.asked ++ [type] }) hunknown
      exact hq.snoc ⟨hfresh, p.asked, fields, hanswer, hsome, hresolved⟩

theorem completeTable_assembled {id : TableId} {request : TableRequest}
    (hp : Assembled env p.structures) (h : completeTable env id request p = .ok ((), p')) :
    Assembled env p'.structures := by
  obtain ⟨decls, fields, q, -, hfields, -, rfl⟩ := completeTable_eq_ok.1 h
  have hstart : Assembled env { p with asked := p.asked ++ [request.model] }.structures := hp
  have hq : Assembled env q.structures := by
    refine Step.mapM_keeps (fun q => Assembled env q.structures) ?_ hstart hfields
    intro f _ field q q' hq hfield
    obtain ⟨x, hx, -⟩ := tableField_eq_ok.1 hfield
    obtain ⟨v, -, hyields⟩ := resolveField_eq_ok.1 hx
    cases v with
    | settled y =>
        obtain ⟨-, rfl⟩ := hyields
        exact hq
    | reference request =>
        obtain ⟨r, hr, -⟩ := hyields
        rw [resolveReference_structures hr]
        exact hq
    | nested type =>
        obtain ⟨s, hs, -⟩ := hyields
        exact structureWithin_assembled hq hs
  exact hq

theorem resolveStructures_assembled {types : List TypeExpr} (hp : Assembled env p.structures)
    (h : resolveStructures env types p = .ok ((), p')) : Assembled env p'.structures := by
  induction types generalizing p with
  | nil =>
      obtain rfl := resolveStructures_nil_eq_ok.1 h
      exact hp
  | cons type types ih =>
      obtain ⟨s, q, hs, hrest⟩ := resolveStructures_cons_eq_ok.1 h
      exact ih (structureWithin_assembled hp hs) hrest

section

variable {answers : List TypeExpr → TypeExpr → Except Failure (List FieldDecl)}
  {locator : Locator} {request : Request} {schema : Schema}

/-- The nested structures of a schema are assembled. -/
theorem assembled_of_resolveWithin (h : resolveWithin room answers locator request = .ok schema) :
    Assembled ⟨answers, room, locator, request.models, schema.lookup⟩ schema.structures := by
  obtain ⟨p', -, hall, -, hstructures⟩ := resolveWithin_eq_ok.1 h
  obtain ⟨p, hcomplete, -, hrest⟩ := resolveAll_eq_ok.1 hall
  rw [hstructures]
  refine resolveStructures_assembled ?_ hrest
  exact Step.zipIdx_forM_ok (fun _ q => Assembled _ q.structures)
    (fun _ _ _ _ _ hq hstep => completeTable_assembled hq hstep) .nil hcomplete

/-- The nested structures of a schema are a library. -/
theorem library_of_resolveWithin (h : resolveWithin room answers locator request = .ok schema) :
    Library schema.structures :=
  (assembled_of_resolveWithin h).library

end

-- ================================================================== use

/-- A structure is a part of another. -/
def Structure.PartOf (inner outer : Structure) : Prop :=
  ∃ head, Part.nested head inner.type inner.parts ∈ outer.parts

/-- A structure comprises itself, its parts, their parts and so on. -/
def Structure.Comprises : Structure → Structure → Prop :=
  Relation.ReflTransGen fun outer inner => inner.PartOf outer

/-- A part comprises what the structure comprises that it is. -/
def Part.Comprises (part : Part) (n : Structure) : Prop :=
  ∃ (head : PartHead) (inner : Structure),
    part = .nested head inner.type inner.parts ∧ inner.Comprises n

/-- A field comprises what the structure comprises that is nested in it. -/
def TableField.Comprises (f : TableField) (n : Structure) : Prop :=
  ∃ inner : Structure, f.kind = .nested inner ∧ inner.Comprises n

/-- The part for a structure comprises what the structure does. -/
theorem Part.comprises_of_partFor? {f : FieldDecl} {part : Part} {n : Structure}
    (h : partFor? f (.nested s) = some part) (hs : s.Comprises n) : part.Comprises n := by
  obtain ⟨-, h⟩ := Option.ite_none_left_eq_some.1 h
  cases h
  exact ⟨_, s, rfl, hs⟩

/-- Whatever is added while a structure is resolved is comprised by it. -/
theorem structureWithin_comprises (h : structureWithin env room enclosing type p = .ok (s, p')) :
    ∀ n ∈ p'.structures, n ∈ p.structures ∨ s.Comprises n := by
  induction room generalizing enclosing type s p p' with
  | zero =>
      rcases structureWithin_eq_ok.1 h with ⟨-, rfl⟩ | ⟨-, -, room, _, _, _, hroom, -⟩
      · exact fun n hn => Or.inl hn
      · cases hroom
  | succ room ih =>
      rcases structureWithin_eq_ok.1 h with
        ⟨-, rfl⟩ | ⟨-, -, room', fields, parts, q, hroom, -, -, hparts, rfl, rfl⟩
      · exact fun n hn => Or.inl hn
      obtain rfl := Nat.succ.inj hroom
      intro n hn
      rcases List.mem_append.1 hn with hn | hn
      · have hadded := Step.mapM_adds Progress.structures Part.Comprises
          (fun f _ part q q' hpart n hn => by
            obtain ⟨v, x, hv, hx, hfor⟩ := resolvePart_eq_ok.1 hpart
            cases v with
            | settled y =>
                obtain ⟨-, rfl⟩ := hx
                exact Or.inl hn
            | reference request => cases model_of_verdict?_reference hv
            | nested inner =>
                obtain ⟨s, hs, rfl⟩ := hx
                exact (ih hs n hn).imp_right (Part.comprises_of_partFor? hfor)) hparts n hn
        apply hadded.imp_right
        rintro ⟨part, hpart, head, inner, rfl, hinner⟩
        exact .head ⟨head, hpart⟩ hinner
      · obtain rfl := List.mem_singleton.1 hn
        exact Or.inr .refl

/-- Whatever is added while a field is resolved is comprised by it. -/
theorem tableField_comprises {request : TableRequest} {decl : FieldDecl} {f : TableField}
    (h : tableField env request decl p = .ok (f, p')) :
    ∀ n ∈ p'.structures, n ∈ p.structures ∨ f.Comprises n := by
  intro n hn
  obtain ⟨x, hx, hf⟩ := tableField_eq_ok.1 h
  obtain ⟨v, -, hyields⟩ := resolveField_eq_ok.1 hx
  cases v with
  | settled y =>
      obtain ⟨-, rfl⟩ := hyields
      exact Or.inl hn
  | reference request =>
      obtain ⟨r, hr, -⟩ := hyields
      rw [resolveReference_structures hr] at hn
      exact Or.inl hn
  | nested type =>
      obtain ⟨s, hs, rfl⟩ := hyields
      apply (structureWithin_comprises hs n hn).imp_right
      intro hcomprised
      refine ⟨s, ?_, hcomprised⟩
      rw [hf.eq]
      rfl

/-- Every structure is comprised by a field of a table. -/
def Progress.Held (p : Progress) : Prop :=
  ∀ n ∈ p.structures, ∃ t ∈ p.tables, ∃ f ∈ t.fields, f.Comprises n

theorem Progress.Held.start : Progress.start.Held :=
  fun _ hn => nomatch hn

theorem completeTable_held {id : TableId} {request : TableRequest} (hp : p.Held)
    (h : completeTable env id request p = .ok ((), p')) : p'.Held := by
  obtain ⟨decls, fields, q, -, hfields, -, rfl⟩ := completeTable_eq_ok.1 h
  have hstart : { p with asked := p.asked ++ [request.model] }.tables = p.tables := rfl
  have htables : q.tables = p.tables := by
    refine Step.mapM_keeps (fun q => q.tables = p.tables) ?_ hstart hfields
    intro decl _ f q q' hq hf
    exact (tableField_ok hf).1.tables.trans hq
  intro n hn
  rcases Step.mapM_adds Progress.structures TableField.Comprises
    (fun _ _ _ _ _ hf => tableField_comprises hf) hfields n hn with hold | ⟨f, hf, hnew⟩
  · obtain ⟨t, ht, hcomprised⟩ := hp n hold
    exact ⟨t, List.mem_append_left _ (htables ▸ ht), hcomprised⟩
  · exact ⟨_, List.mem_append_right _ (List.mem_singleton_self _), f, hf, hnew⟩

/-- What is added for requested structures is comprised by one of them, and
each of them is there. -/
theorem resolveStructures_requested {types : List TypeExpr}
    (h : resolveStructures env types p = .ok ((), p')) :
    (∀ n ∈ p'.structures, n ∈ p.structures ∨
      ∃ root ∈ p'.structures, root.type ∈ types ∧ root.Comprises n) ∧
    ∀ type ∈ types, ∃ root ∈ p'.structures, root.type = type := by
  induction types generalizing p with
  | nil =>
      obtain rfl := resolveStructures_nil_eq_ok.1 h
      exact ⟨fun n hn => Or.inl hn, fun type htype => nomatch htype⟩
  | cons type types ih =>
      obtain ⟨s, q, hs, hrest⟩ := resolveStructures_cons_eq_ok.1 h
      obtain ⟨hadded, hthere⟩ := ih hrest
      obtain ⟨htype, hmem⟩ := structureWithin_known hs
      have hmem' : s ∈ p'.structures := (resolveStructures_ok hrest).structures.subset hmem
      constructor
      · intro n hn
        rcases hadded n hn with hn | ⟨root, hroot, hrequested, hcomprised⟩
        · apply (structureWithin_comprises hs n hn).imp_right
          intro hcomprised
          exact ⟨s, hmem', htype ▸ List.mem_cons_self, hcomprised⟩
        · exact Or.inr ⟨root, hroot, List.mem_cons_of_mem _ hrequested, hcomprised⟩
      · intro type' htype'
        rcases List.mem_cons.1 htype' with rfl | htype'
        · exact ⟨s, hmem', htype⟩
        · exact hthere type' htype'

-- ================================================================= main

section

variable {answers : List TypeExpr → TypeExpr → Except Failure (List FieldDecl)}
  {locator : Locator} {request : Request} {schema : Schema}

/-- The structures in use: those nested in the fields of the tables, those
that were requested, and the parts of structures in use. -/
inductive Schema.InUse (schema : Schema) (request : Request) : Structure → Prop
  | field {t : Table} {f : TableField} {n : Structure} (ht : t ∈ schema.tables)
      (hf : f ∈ t.fields) (hkind : f.kind = .nested n) : InUse schema request n
  | requested {n : Structure} (hn : n ∈ schema.structures) (htype : n.type ∈ request.structures) :
      InUse schema request n
  | part {outer inner : Structure} (houter : InUse schema request outer)
      (hpart : inner.PartOf outer) : InUse schema request inner

/-- A type is nested as a structure by a field of a table or by a part of a
listed structure. The type of a field is that of its values. -/
inductive Schema.Nests (schema : Schema) : TypeExpr → Structure → Prop
  | field {t : Table} {f : TableField} {n : Structure} (ht : t ∈ schema.tables)
      (hf : f ∈ t.fields) (hkind : f.kind = .nested n) : Nests schema f.valueType n
  | part {outer inner : Structure} {head : PartHead} (houter : outer ∈ schema.structures)
      (hpart : .nested head inner.type inner.parts ∈ outer.parts) : Nests schema head.type inner

/-- What a structure in use comprises is in use. -/
theorem Schema.InUse.comprises {n n' : Structure} (h : schema.InUse request n)
    (hn : n.Comprises n') : schema.InUse request n' := by
  induction hn with
  | refl => exact h
  | tail _ hpart ih => exact .part ih hpart

/-- The structures of a schema are those in use. -/
theorem mem_structures_iff (h : resolveWithin room answers locator request = .ok schema)
    (n : Structure) : n ∈ schema.structures ↔ schema.InUse request n := by
  constructor
  · intro hn
    obtain ⟨p', -, hall, htables, hstructures⟩ := resolveWithin_eq_ok.1 h
    obtain ⟨p, hcomplete, -, hrest⟩ := resolveAll_eq_ok.1 hall
    have hheld : p.Held := Step.zipIdx_forM_ok (fun _ q => q.Held)
      (fun _ _ _ _ _ hq hstep => completeTable_held hq hstep) .start hcomplete
    rw [hstructures] at hn
    rcases (resolveStructures_requested hrest).1 n hn with hn | ⟨root, hroot, hrequested, hn⟩
    · obtain ⟨t, ht, f, hf, inner, hkind, hcomprised⟩ := hheld n hn
      rw [← (resolveStructures_ok hrest).tables, ← htables] at ht
      exact (Schema.InUse.field ht hf hkind).comprises hcomprised
    · exact (Schema.InUse.requested (hstructures ▸ hroot) hrequested).comprises hn
  · intro hn
    induction hn with
    | field ht hf hkind => exact nested_mem_structures h ht hf hkind
    | requested hn => exact hn
    | part _ hpart ih =>
        obtain ⟨head, hpart⟩ := hpart
        exact (library_of_resolveWithin h).closed _ ih _ hpart

theorem requested_mem_structures (h : resolveWithin room answers locator request = .ok schema) :
    ∀ type ∈ request.structures, ∃ n ∈ schema.structures, n.type = type := by
  obtain ⟨p', -, hall, -, hstructures⟩ := resolveWithin_eq_ok.1 h
  obtain ⟨p, -, -, hrest⟩ := resolveAll_eq_ok.1 hall
  rw [hstructures]
  exact (resolveStructures_requested hrest).2

/-- A type is nested as the structure that is listed for it. -/
theorem Schema.Nests.listed (h : resolveWithin room answers locator request = .ok schema)
    {n : Structure} (hn : schema.Nests type n) : n ∈ schema.structures ∧ n.type = type := by
  cases hn with
  | @field t f n ht hf hkind =>
      obtain ⟨id, hid⟩ := List.mem_iff_getElem?.1 ht
      obtain ⟨request, -, hresolved⟩ := (resolveWithin_ok h).tables id t hid
      obtain ⟨decl, hfield⟩ := hresolved.field hf
      obtain ⟨htype, hmem⟩ := hfield.nested hkind
      exact ⟨hmem, htype⟩
  | part houter hpart =>
      obtain ⟨before, after, hsplit⟩ := List.append_of_mem houter
      have hmade := (assembled_of_resolveWithin h).madeOver hsplit
      obtain ⟨hmem, htype⟩ := hmade.nested hpart
      rw [hsplit]
      exact ⟨List.mem_append_left _ hmem, htype⟩

/-- The nested structures of a schema are those in use, in the order in
which they need each other. No type is listed twice. A structure is listed
exactly if it is nested in a field of a table, or requested, or a part of
one that is; and each requested one is there. Each stands after all that it
is made of. Wherever a type is nested, in a table or in a structure, it is
as the structure that is listed for it, so no two uses of a type differ,
although the describer may have described it differently each time. -/
theorem structures_in_use (h : resolveWithin room answers locator request = .ok schema) :
    (schema.structures.map (·.type)).Nodup ∧
    (∀ n, n ∈ schema.structures ↔ schema.InUse request n) ∧
    (∀ type ∈ request.structures, ∃ n ∈ schema.structures, n.type = type) ∧
    (∀ before n after, schema.structures = before ++ n :: after →
      ∀ inner, inner.PartOf n → inner ∈ before) ∧
    (∀ type n, schema.Nests type n → n ∈ schema.structures ∧ n.type = type) ∧
    (∀ type n n', schema.Nests type n → schema.Nests type n' → n = n') := by
  have hassembled := assembled_of_resolveWithin h
  have hlibrary := hassembled.library
  refine ⟨hlibrary.distinct, mem_structures_iff h, requested_mem_structures h, ?_, ?_, ?_⟩
  · intro before n after hsplit inner hinner
    obtain ⟨head, hpart⟩ := hinner
    exact hassembled.ordered hsplit _ hpart
  · intro type n hn
    exact hn.listed h
  · intro type n n' hn hn'
    obtain ⟨hmem, htype⟩ := hn.listed h
    obtain ⟨hmem', htype'⟩ := hn'.listed h
    exact hlibrary.eq_of_type hmem hmem' (htype.trans htype'.symm)

end

/-- A road that starts at a point and has a segment between two points. A
point is described by its coordinates, and if it were asked for again, by a
name. -/
def roadDescriber : Describer :=
  let point := FieldDecl.plain "x" (.named "i32")
  let catalog : Catalog :=
    { decls := [
        ⟨.named "Road", [.plain "id" (.named "i32"), .plain "start" (.named "Point"),
          .plain "way" (.named "Segment")], true, none, none, [], none⟩,
        ⟨.named "Segment", [.plain "from" (.named "Point"), .plain "to" (.named "Point")],
          false, none, none, [], none⟩,
        ⟨.named "Region", [.plain "label" (.named "String"), .plain "center" (.named "Point")],
          false, none, none, [], none⟩]
      unsupported := [] }
  catalog.scriptedDescriber
    [(.named "Point", [[point, .plain "y" (.named "i32")], [.plain "name" (.named "String")]])]

/-- The road, and a region on its own. -/
def roadRequest : Request := ⟨[.ofModel (.named "Road")], [.named "Region"]⟩

/-- The road uses points and segments, and the region is there as well; all
points are alike. -/
theorem structures_in_use_road :
    ∃ s, resolve roadDescriber Registry.empty.locator roadRequest = .ok s ∧
      s.structures.map (·.type) = [.named "Point", .named "Segment", .named "Region"] ∧
      (∀ n, n ∈ s.structures ↔ s.InUse roadRequest n) ∧
      ∀ n n', s.Nests (.named "Point") n → s.Nests (.named "Point") n' → n = n' := by
  have hfound : ((resolve roadDescriber Registry.empty.locator roadRequest).toOption.filter
      fun s => s.structures.map (·.type) ==
        [.named "Point", .named "Segment", .named "Region"]).isSome = true := by
    decide +kernel
  obtain ⟨s, hfound⟩ := Option.isSome_iff_exists.1 hfound
  obtain ⟨hs, htypes⟩ := Option.filter_eq_some_iff.1 hfound
  have hresolved := Attempt.toOption_eq_some.1 hs
  obtain ⟨-, hused, -, -, -, hsame⟩ := structures_in_use hresolved
  exact ⟨s, hresolved, eq_of_beq htypes, hused, hsame _⟩

end Rowsmith

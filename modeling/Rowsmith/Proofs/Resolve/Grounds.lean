/-
What a table is resolved from. A table is what its model was resolved to,
but what a field may become depends on what is known of the other models
and of the nested structures. That part is kept apart as the grounds of
a resolution: which fields a model was described with, which reference a
declared field may be resolved to, and which structure a type may be
nested as. A run has the grounds of its progress, a schema has its own,
and where descriptions never change there are grounds that do not mention
the run at all; what is shared between them is stated here once.
-/
import Rowsmith.Proofs.Related
import Rowsmith.Proofs.Resolve.Outcome

namespace Rowsmith

-- ============================================================== grounds

/-- What counts as a description of a model, as a reference for a declared
field, and as the nested structure of a type. -/
structure Grounds where
  described : TypeExpr → List FieldDecl → Prop
  refers : FieldDecl → Reference → Prop
  nests : TypeExpr → Structure → Prop

/-- Whatever counts on the first grounds counts on the second. -/
structure Grounds.Imply (g g' : Grounds) : Prop where
  described : ∀ type decls, g.described type decls → g'.described type decls
  refers : ∀ decl r, g.refers decl r → g'.refers decl r
  nests : ∀ type s, g.nests type s → g'.nests type s

section

variable {locator : Locator} {g g' : Grounds} {request : TableRequest} {id : TableId}

-- =============================================================== fields

/-- What a field was resolved to is as the verdict on it says. -/
def Verdict.Holds (g : Grounds) (decl : FieldDecl) (x : Resolved) : Verdict → Prop
  | .settled y => x = y
  | .reference _ => ∃ r, x = .reference r ∧ g.refers decl r
  | .nested type => ∃ s, x = .nested s ∧ g.nests type s

theorem Verdict.Holds.mono {decl : FieldDecl} {x : Resolved} {v : Verdict} (h : v.Holds g decl x)
    (hg : g.Imply g') : v.Holds g' decl x := by
  cases v with
  | settled y => exact h
  | reference request =>
      obtain ⟨r, hx, hr⟩ := h
      exact ⟨r, hx, hg.refers decl r hr⟩
  | nested type =>
      obtain ⟨s, hx, hs⟩ := h
      exact ⟨s, hx, hg.nests type s hs⟩

/-- What a verdict leads to is determined if references and structures
are. -/
theorem Verdict.Holds.unique {decl : FieldDecl} {x x' : Resolved} {v : Verdict}
    (hrefers : ∀ r r', g.refers decl r → g.refers decl r' → r = r')
    (hnests : ∀ type s s', g.nests type s → g.nests type s' → s = s')
    (h : v.Holds g decl x) (h' : v.Holds g decl x') : x = x' := by
  cases v with
  | settled y => exact (show x = y from h).trans (show x' = y from h').symm
  | reference request =>
      obtain ⟨r, rfl, hr⟩ := h
      obtain ⟨r', rfl, hr'⟩ := h'
      rw [hrefers r r' hr hr']
  | nested type =>
      obtain ⟨s, rfl, hs⟩ := h
      obtain ⟨s', rfl, hs'⟩ := h'
      rw [hnests type s s' hs hs']

/-- If a verdict leads to a structure, it is to nest the type of the
values of the field. -/
theorem Verdict.Holds.nested {decl : FieldDecl} {v : Verdict} {owner : Owner} {s : Structure}
    (h : v.Holds g decl (.nested s)) (hv : verdict? locator owner decl = some v) :
    g.nests decl.type.valueType s := by
  cases v with
  | settled y =>
      obtain rfl : Resolved.nested s = y := h
      cases foundBy_of_verdict? hv
  | reference request =>
      obtain ⟨r, hx, -⟩ := h
      cases hx
  | nested type =>
      obtain ⟨s', hx, hs'⟩ := h
      rw [Resolved.nested.inj hx]
      cases foundBy_of_verdict? hv
      exact hs'

/-- If a verdict leads to an adapter, the adapter declares columns. -/
theorem Verdict.Holds.adapted {decl : FieldDecl} {v : Verdict} {owner : Owner}
    {adapter : ProvidedAdapter} (h : v.Holds g decl (.adapted adapter))
    (hv : verdict? locator owner decl = some v) : adapter.columns ≠ [] := by
  cases v with
  | settled y =>
      obtain rfl : Resolved.adapted adapter = y := h
      cases foundBy_of_verdict? hv with
      | adapter _ _ columns => exact columns
  | reference request =>
      obtain ⟨r, hx, -⟩ := h
      cases hx
  | nested type =>
      obtain ⟨s, hx, -⟩ := h
      cases hx

/-- A field of a table is resolved from a declared field. -/
def TableField.ResolvedFrom (locator : Locator) (g : Grounds) (request : TableRequest)
    (decl : FieldDecl) (f : TableField) : Prop :=
  ∃ v x, verdict? locator (.model request) decl = some v ∧ v.Holds g decl x ∧
    f.Resolves request decl x

theorem TableField.ResolvedFrom.mono {decl : FieldDecl} {f : TableField}
    (h : f.ResolvedFrom locator g request decl) (hg : g.Imply g') :
    f.ResolvedFrom locator g' request decl := by
  obtain ⟨v, x, hv, hx, hf⟩ := h
  exact ⟨v, x, hv, hx.mono hg, hf⟩

/-- A reference of a resolved field is one that counts for its
declaration. -/
theorem TableField.ResolvedFrom.reference {decl : FieldDecl} {f : TableField} {r : Reference}
    (h : f.ResolvedFrom locator g request decl) (hr : f.kind = .reference r) :
    f.type = decl.type ∧ g.refers decl r := by
  obtain ⟨v, x, hv, hx, hf⟩ := h
  have hkind : (placeField decl x).2 = .reference r := by
    rw [← hr, hf.eq]
  have hxr : x = .reference r := by
    cases x with
    | reference r' => exact congrArg Resolved.reference (FieldKind.reference.inj hkind)
    | _ => cases hkind
  refine ⟨by rw [hf.eq], ?_⟩
  cases v with
  | settled y =>
      have hy : y = .reference r := (show x = y from hx) ▸ hxr
      subst hy
      cases foundBy_of_verdict? hv
  | reference request =>
      obtain ⟨r', hx, hr'⟩ := hx
      obtain rfl := Resolved.reference.inj (hx.symm.trans hxr)
      exact hr'
  | nested type =>
      obtain ⟨s, hx, -⟩ := hx
      cases hx.symm.trans hxr

/-- A structure nested in a resolved field is one that the type of its
values may be nested as. -/
theorem TableField.ResolvedFrom.nested {decl : FieldDecl} {f : TableField} {s : Structure}
    (h : f.ResolvedFrom locator g request decl) (hs : f.kind = .nested s) :
    g.nests f.valueType s := by
  obtain ⟨v, x, hv, hx, hf⟩ := h
  have hkind : (placeField decl x).2 = .nested s := by
    rw [← hs, hf.eq]
  have hxs : x = .nested s := by
    cases x with
    | nested s' => exact congrArg Resolved.nested (FieldKind.nested.inj hkind)
    | _ => cases hkind
  subst hxs
  have htype : f.valueType = decl.type.valueType := by rw [hf.eq]; rfl
  rw [htype]
  exact hx.nested hv

-- =============================================================== tables

/-- The table at a position is what the model there was resolved to, from
the fields it was described with, and passed the checks. -/
structure Table.ResolvedFrom (locator : Locator) (g : Grounds) (request : TableRequest)
    (id : TableId) (t : Table) : Prop where
  eq : t = request.toTable id t.fields
  fields : ∃ decls, g.described request.model decls ∧
    List.Forall₂ (TableField.ResolvedFrom locator g request) decls t.fields
  checked : TableChecked request t.fields

theorem Table.ResolvedFrom.mono {t : Table} (h : t.ResolvedFrom locator g request id)
    (hg : g.Imply g') : t.ResolvedFrom locator g' request id := by
  obtain ⟨decls, hdescribed, hfields⟩ := h.fields
  exact ⟨h.eq, ⟨decls, hg.described _ _ hdescribed, hfields.imp fun _ _ hf => hf.mono hg⟩,
    h.checked⟩

/-- A field of a resolved table is resolved from a declared one. -/
theorem Table.ResolvedFrom.field {t : Table} (h : t.ResolvedFrom locator g request id)
    {f : TableField} (hf : f ∈ t.fields) : ∃ decl, f.ResolvedFrom locator g request decl := by
  obtain ⟨decls, -, hfields⟩ := h.fields
  obtain ⟨decl, -, hdecl⟩ := Related.exists_mem hfields.flip hf
  exact ⟨decl, hdecl⟩

end

/-- Tables are what the models at their positions were resolved to. -/
def CompletedFrom (locator : Locator) (g : Grounds) (models : List TableRequest)
    (tables : List Table) : Prop :=
  ∀ (id : TableId) (t : Table), tables[id]? = some t →
    ∃ request, models[id]? = some request ∧ t.ResolvedFrom locator g request id

namespace CompletedFrom

variable {locator : Locator} {g g' : Grounds} {models : List TableRequest} {tables : List Table}

theorem mono (h : CompletedFrom locator g models tables) (hg : g.Imply g') :
    CompletedFrom locator g' models tables := by
  intro id t ht
  obtain ⟨request, hrequest, hresolved⟩ := h id t ht
  exact ⟨request, hrequest, hresolved.mono hg⟩

/-- The table of the next model comes last. -/
theorem append (h : CompletedFrom locator g models tables) {request : TableRequest} {t : Table}
    (hrequest : models[tables.length]? = some request)
    (ht : t.ResolvedFrom locator g request tables.length) :
    CompletedFrom locator g models (tables ++ [t]) := by
  intro id t' ht'
  rcases Nat.lt_or_ge id tables.length with hid | hid
  · rw [List.getElem?_append_left hid] at ht'
    exact h id t' ht'
  · rw [List.getElem?_append_right hid, List.getElem?_singleton] at ht'
    split at ht'
    case isFalse => cases ht'
    case isTrue hlast =>
      obtain rfl := Option.some.inj ht'
      obtain rfl : id = tables.length := Nat.le_antisymm (Nat.sub_eq_zero_iff_le.1 hlast) hid
      exact ⟨request, hrequest, ht⟩

end CompletedFrom

end Rowsmith

/-
What every accepted schema keeps to. The checks that a schema has passed
are made at different times: some when the models are registered, some
when a field is resolved, some when the fields of a nested structure are,
and some when a table is finished. Whoever writes a schema out relies on
all of them and makes none of them again, so here they are put together,
as what is true of every table (`Table.Accepted`).

Most of it is read off one check. Two parts are not checked anywhere. That
a field has a column follows from where it can come from: an adapter is
refused if it declares none, and a structure has a part, which has a
column if all structures finished before have one
(`Assembled.columnCount_pos`). And that a type leads to the table of its
model follows from the order of the run alone: models are registered in
the order in which they are completed.

Main result: `accepted_tables`.
-/
import Rowsmith.Proofs.Resolve.Assembly
import Rowsmith.Proofs.Resolve.Drafts
import Rowsmith.Proofs.Resolve.Integrity

namespace Rowsmith

-- =============================================================== fields

section

variable {locator : Locator} {g : Grounds} {request : TableRequest} {decl : FieldDecl}
  {f : TableField}

/-- A resolved field has a column, if the structures that can be nested
have one. -/
theorem TableField.ResolvedFrom.columns_ne_nil (h : f.ResolvedFrom locator g request decl)
    (hnests : ∀ type s, g.nests type s → 0 < s.columnCount) : f.columns ≠ [] := by
  obtain ⟨v, x, hv, hx, hf⟩ := h
  have hcolumns : f.columns = (placeField decl x).1 := by rw [hf.eq]
  rw [hcolumns, ← List.length_pos_iff]
  cases x with
  | reference r => exact Nat.one_pos
  | mapped conversion => exact Nat.one_pos
  | native storage => exact Nat.one_pos
  | adapted adapter =>
      show 0 < (adapter.columnsUnder decl.storageName).length
      rw [adapter.length_columnsUnder, List.length_pos_iff]
      exact hx.adapted hv
  | nested structured =>
      show 0 < (structured.columns decl.storageName).length
      rw [structured.length_columns]
      exact hnests _ _ (hx.nested hv)

/-- Unless a verdict is for a reference, a field may be marked as nullable
only if it is declared optional. -/
theorem isOption_of_verdict? {owner : Owner} {v : Verdict}
    (hv : verdict? locator owner decl = some v) (hother : ∀ request, v ≠ .reference request)
    (hnullable : decl.nullable = true) : decl.type.isOption = true := by
  unfold verdict? at hv
  by_cases href : isReferenceType decl.type.valueType = true
  · rw [if_pos href] at hv
    cases owner with
    | model request =>
        cases hv
        exact absurd rfl (hother request)
    | structured type => cases hv
  · rw [if_neg href] at hv
    by_cases hguard : (!(!decl.nullable || decl.type.isOption)) = true
    · rw [if_pos hguard] at hv
      cases hv
    · rw [hnullable] at hguard
      simpa using hguard

/-- A resolved field that is not a reference is nullable exactly if it is
declared optional. -/
theorem TableField.ResolvedFrom.nullable_eq (h : f.ResolvedFrom locator g request decl)
    (hf : f.isReference = false) : f.nullable = f.isOptional := by
  obtain ⟨v, x, hv, hx, hresolves⟩ := h
  have hother : ∀ request, v ≠ .reference request := by
    intro request hreference
    subst hreference
    obtain ⟨r, rfl, -⟩ := hx
    rw [hresolves.eq] at hf
    cases hf
  have hnullable : f.nullable = (decl.nullable || decl.type.isOption) := by rw [hresolves.eq]
  have hoptional : f.isOptional = decl.type.isOption := by rw [hresolves.eq]; rfl
  rw [hnullable, hoptional]
  cases hmarked : decl.nullable with
  | false => rfl
  | true => exact (isOption_of_verdict? hv hother hmarked).symm

/-- A resolved field has no default expressions or one for each of its
columns. -/
theorem TableField.ResolvedFrom.defaults (h : f.ResolvedFrom locator g request decl) :
    f.defaults = [] ∨ f.defaults.length = f.columnCount := by
  obtain ⟨v, x, -, -, hf⟩ := h
  have hdefaults := hf.defaults
  unfold TableField.columnCount
  rw [hf.eq]
  rcases Bool.or_eq_true_iff.1 hdefaults with hnone | heach
  · exact Or.inl (List.isEmpty_iff.1 hnone)
  · exact Or.inr (eq_of_beq heach)

end

/-- A value that is stored in one column, or the key of another table, is
what the field holds. -/
def FieldKind.isSingle : FieldKind → Bool
  | .native => true
  | .reference _ => true
  | .mapped _ => true
  | .adapted _ => false
  | .nested _ => false

theorem TableField.Laid.columnCount_eq_one {f : TableField} (h : f.Laid)
    (hsingle : f.kind.isSingle = true) : f.columnCount = 1 := by
  unfold Laid at h
  unfold columnCount
  cases hkind : f.kind with
  | native =>
      rw [hkind] at h
      obtain ⟨c, hcolumns⟩ := h
      rw [hcolumns]
      rfl
  | reference r =>
      rw [hkind] at h
      obtain ⟨name, hcolumns⟩ := h
      rw [hcolumns]
      rfl
  | mapped conversion =>
      rw [hkind] at h
      obtain ⟨name, hcolumns⟩ := h
      rw [hcolumns]
      rfl
  | adapted adapter =>
      rw [hkind] at hsingle
      cases hsingle
  | nested structured =>
      rw [hkind] at hsingle
      cases hsingle

-- =============================================================== tables

/-- What every table of an accepted schema keeps to, given the model at
its position. -/
structure Table.Accepted (request : TableRequest) (id : TableId) (t : Table) : Prop where
  -- It is the table of this model at this position.
  eq : t = request.toTable id t.fields
  -- There are fields, and each has a column.
  nonempty : t.fields ≠ []
  columns : ∀ f ∈ t.fields, f.columns ≠ []
  single : ∀ f ∈ t.fields, f.kind.isSingle = true → f.columnCount = 1
  -- At most one field is the primary key, which is stored in one column
  -- and never null.
  oneKey : (t.fields.filter (·.primaryKey)).length ≤ 1
  key : ∀ f ∈ t.fields, f.primaryKey = true → f.columnCount = 1 ∧ f.nullable = false
  -- No two columns have the same name.
  distinct : (t.columns.map (·.name)).Nodup
  defaults : ∀ f ∈ t.fields, f.defaults = [] ∨ f.defaults.length = f.columnCount
  nullable : ∀ f ∈ t.fields, f.isReference = false → f.nullable = f.isOptional
  -- A bridge names references.
  bridge : ∀ b, t.bridge = some b → ∀ name ∈ [b.left, b.right],
    ∃ f, t.field? name = some f ∧ f.isReference = true

/-- A table that was resolved is accepted, if the structures that can be
nested have a column. -/
theorem Table.ResolvedFrom.accepted {locator : Locator} {g : Grounds} {request : TableRequest}
    {id : TableId} {t : Table} (h : t.ResolvedFrom locator g request id)
    (hnests : ∀ type s, g.nests type s → 0 < s.columnCount) : t.Accepted request id := by
  have hkey : ∀ f ∈ t.fields, f.primaryKey = true → f ∈ t.fields.filter (·.primaryKey) :=
    fun f hf hprimary => List.mem_filter.2 ⟨hf, hprimary⟩
  constructor
  case eq => exact h.eq
  case nonempty => exact h.checked.nonempty
  case columns =>
    intro f hf
    obtain ⟨decl, hdecl⟩ := h.field hf
    exact hdecl.columns_ne_nil hnests
  case single =>
    intro f hf hsingle
    obtain ⟨decl, v, x, -, -, hresolves⟩ := h.field hf
    exact hresolves.laid.columnCount_eq_one hsingle
  case oneKey =>
    rcases h.checked.key with hnone | ⟨key, hone, -, -⟩
    · rw [hnone]
      exact Nat.zero_le 1
    · rw [hone]
      exact Nat.le_refl 1
  case key =>
    intro f hf hprimary
    have hmem := hkey f hf hprimary
    rcases h.checked.key with hnone | ⟨key, hone, hcount, hnull⟩
    · rw [hnone] at hmem
      cases hmem
    · rw [hone] at hmem
      rw [List.mem_singleton.1 hmem]
      exact ⟨hcount, hnull⟩
  case distinct => exact h.checked.columns
  case defaults =>
    intro f hf
    obtain ⟨decl, hdecl⟩ := h.field hf
    exact hdecl.defaults
  case nullable =>
    intro f hf hreference
    obtain ⟨decl, hdecl⟩ := h.field hf
    exact hdecl.nullable_eq hreference
  case bridge =>
    intro b hb
    have hrequest : request.bridge = some b := by
      rw [← hb, h.eq]
      rfl
    exact h.checked.bridge b hrequest

-- ============================================================== schemas

section

variable {room : Nat} {answers : List TypeExpr → TypeExpr → Except Failure (List FieldDecl)}
  {locator : Locator} {request : Request} {schema : Schema}

theorem accepted_of_resolveWithin (h : resolveWithin room answers locator request = .ok schema)
    {id : TableId} {t : Table} (ht : schema.tables[id]? = some t) :
    ∃ r, request.models[id]? = some r ∧ t.Accepted r id := by
  obtain ⟨r, hr, hresolved⟩ := (resolveWithin_ok h).tables id t ht
  have hpos := (assembled_of_resolveWithin h).columnCount_pos
  exact ⟨r, hr, hresolved.accepted fun type s hs => hpos s hs.2⟩

/-- A type leads to the table of a model exactly if the model is known by
it. -/
theorem tableFor?_eq_some_iff (h : resolveWithin room answers locator request = .ok schema)
    {id : TableId} {r : TableRequest} {t : Table} (hr : request.models[id]? = some r)
    (ht : schema.tables[id]? = some t) (key : TypeExpr) :
    schema.tableFor? key = some t ↔ key ∈ r.lookupKeys := by
  have hregisters := (resolveWithin_ok h).registers
  have hids := (wellFormed_of_resolveWithin h).ids
  unfold Schema.tableFor?
  rw [Option.bind_eq_some_iff]
  constructor
  · rintro ⟨found, hfound, htable⟩
    -- a table knows its position, so there is one way to find it
    obtain rfl : found = id := (hids found t htable).symm.trans (hids id t ht)
    obtain ⟨r', hr', hkey⟩ := (hregisters key found).1 hfound
    rw [hr] at hr'
    exact Option.some.inj hr' ▸ hkey
  · intro hkey
    exact ⟨id, (hregisters key id).2 ⟨r, hr, hkey⟩, ht⟩

end

/-- Whatever a describer answers and a locator finds: a run keeps its
drafts, so none is filled in twice and none is read that is still empty,
also if the run fails in the end. If it succeeds, there is a table for
each model, at the position of the model and with all that is demanded of
a table; a type leads to it exactly if the model is known by that type;
and no type is shared by two models. -/
theorem accepted_tables {room : Nat}
    {answers : List TypeExpr → TypeExpr → Except Failure (List FieldDecl)} {locator : Locator}
    {request : Request} :
    (∀ lookup, registerAll request.models = .ok lookup →
      Setting.KeepsDrafts ⟨answers, room, locator, request.models, lookup⟩) ∧
    ∀ schema, resolveWithin room answers locator request = .ok schema →
      schema.tables.length = request.models.length ∧
      (∀ (id : TableId) (r : TableRequest), request.models[id]? = some r →
        ∃ t, schema.tables[id]? = some t ∧ t.Accepted r id ∧
          ∀ key, schema.tableFor? key = some t ↔ key ∈ r.lookupKeys) ∧
      KeysDisjoint request.models := by
  constructor
  · intro lookup hlookup
    exact Setting.keepsDrafts (registers_of_registerAll hlookup)
  · intro schema h
    have hlength := (resolveWithin_ok h).length
    refine ⟨hlength, ?_, ?_⟩
    · intro id r hr
      have hid : id < schema.tables.length := by
        rw [hlength]
        exact (List.getElem?_eq_some_iff.1 hr).1
      have ht : schema.tables[id]? = some schema.tables[id] := List.getElem?_eq_getElem hid
      obtain ⟨r', hr', haccepted⟩ := accepted_of_resolveWithin h ht
      rw [hr] at hr'
      obtain rfl := Option.some.inj hr'
      exact ⟨_, ht, haccepted, tableFor?_eq_some_iff h hr ht⟩
    · obtain ⟨p, hlookup, -⟩ := resolveWithin_eq_ok.1 h
      exact registerAll_succeeds_iff.1 ⟨schema.lookup, hlookup⟩

/-- Authors, who are also known as writers, and books, which may have a
number, with the authorships that link them. -/
def archiveCatalog : Catalog where
  decls := [
    ⟨.named "Authorship", [.plain "author" (.generic "ForeignInt" [.named "Writer"]),
      .plain "book" (.generic "ForeignInt" [.named "Book"])], true, none, none, [],
      some ⟨"author", "book"⟩⟩,
    ⟨.named "Author", [.plain "id" (.named "i32"), .plain "name" (.named "Name")], true, none,
      none, [.named "Writer"], none⟩,
    ⟨.named "Book", [.plain "id" (.named "i32"),
      .plain "number" (.generic "Option" [.named "String"])], true, none, none, [], none⟩,
    ⟨.named "Name", [.plain "given" (.named "String"), .plain "family" (.named "String")], false,
      none, none, [], none⟩]
  unsupported := []

def archiveRequest : Request := ⟨archiveCatalog.models.map (·.toRequest), []⟩

/-- The authorships come first, when both keys they refer to have to be
foretold. They are accepted with their bridge, and authors are found by
both types. -/
theorem accepted_tables_archive :
    ∃ s t u, resolve archiveCatalog.describer Registry.empty.locator archiveRequest = .ok s ∧
      s.tables.length = 3 ∧ s.tables[0]? = some t ∧ s.tables[1]? = some u ∧
      (∃ r, archiveRequest.models[0]? = some r ∧ t.Accepted r 0) ∧ t.bridge.isSome = true ∧
      s.tableFor? (.named "Author") = some u ∧ s.tableFor? (.named "Writer") = some u ∧
      ∃ lookup, Setting.KeepsDrafts ⟨archiveCatalog.describer.fields,
        archiveCatalog.describer.declared.length, Registry.empty.locator, archiveRequest.models,
        lookup⟩ := by
  have hfound : (resolve archiveCatalog.describer Registry.empty.locator
      archiveRequest).toOption.isSome = true := by
    decide +kernel
  obtain ⟨s, hs⟩ := Option.isSome_iff_exists.1 hfound
  have hresolved := Attempt.toOption_eq_some.1 hs
  obtain ⟨hdrafts, haccepted⟩ := @accepted_tables archiveCatalog.describer.declared.length
    archiveCatalog.describer.fields Registry.empty.locator archiveRequest
  obtain ⟨hlength, hmodels, -⟩ := haccepted s hresolved
  obtain ⟨t, ht, hauthorship, -⟩ := hmodels 0 _ rfl
  obtain ⟨u, hu, -, hkeys⟩ := hmodels 1 _ rfl
  have hbridge : t.bridge.isSome = true := by
    rw [hauthorship.eq]
    rfl
  obtain ⟨p, hlookup, -⟩ := resolveWithin_eq_ok.1 hresolved
  refine ⟨s, t, u, hresolved, hlength, ht, hu, ⟨_, rfl, hauthorship⟩, hbridge, ?_, ?_, s.lookup,
    hdrafts _ hlookup⟩
  · exact (hkeys _).2 (by decide)
  · exact (hkeys _).2 (by decide)

end Rowsmith

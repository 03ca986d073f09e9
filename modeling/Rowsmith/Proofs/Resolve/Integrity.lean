/-
Referential integrity: a schema that was resolved refers only to what it
has.

A reference is resolved when the table it is to may not have been
resolved yet; its key is then foretold from what the describer says of
the model at that moment. Nothing forces the describer to give the same
answer when the model is resolved. What makes a resolved schema sound is
that every foretold key is compared with the table in the end, and so the
statements here hold for whatever answers were given.

Main results: a resolved schema is well-formed
(`wellFormed_of_resolveWithin`), and each of its references is sound down
to the clauses of the statements that create its tables
(`references_sound`).
-/
import Rowsmith.Proofs.Resolve.Run
import Rowsmith.Proofs.Schema.Parts
import Rowsmith.Proofs.Sql.Definitions

namespace Rowsmith

variable {env : Setting}

-- =============================================================== fields

/-- A resolved field has the columns its kind calls for. -/
theorem TableField.Resolves.laid {request : TableRequest} {decl : FieldDecl} {x : Resolved}
    {f : TableField} (h : f.Resolves request decl x) : f.Laid := by
  rw [h.eq]
  unfold TableField.Laid
  cases x with
  | reference r => exact ⟨_, rfl⟩
  | mapped conversion => exact ⟨_, rfl⟩
  | native storage => exact ⟨_, rfl⟩
  | adapted adapter => exact ⟨_, rfl⟩
  | nested structured => exact ⟨_, rfl⟩

/-- An optional field has a column: an adapter declares one, and an
optional structure has one that is always set. -/
theorem TableField.ResolvedFrom.filled {locator : Locator} {g : Grounds} {request : TableRequest}
    {decl : FieldDecl} {f : TableField} (h : f.ResolvedFrom locator g request decl)
    (hoptional : f.isOptional = true) : f.columns ≠ [] := by
  obtain ⟨v, x, hv, hx, hf⟩ := h
  rw [hf.eq] at hoptional ⊢
  change decl.type.isOption = true at hoptional
  show (placeField decl x).1 ≠ []
  cases x with
  | reference r => exact List.cons_ne_nil _ _
  | mapped conversion => exact List.cons_ne_nil _ _
  | native storage => exact List.cons_ne_nil _ _
  | adapted adapter =>
      have hcolumns := hx.adapted hv
      intro hnil
      change adapter.columnsUnder decl.storageName = [] at hnil
      have hlength := adapter.length_columnsUnder decl.storageName
      rw [hnil] at hlength
      exact hcolumns (List.length_eq_zero_iff.1 hlength.symm)
  | nested structured =>
      -- a nested structure is optional only with a column that is always set
      have hrequired := hf.required structured rfl
      rw [hoptional, Bool.not_true, Bool.false_or] at hrequired
      exact Part.columnsAll_ne_nil_of_isRequiredAny _ structured.parts hrequired

-- ============================================================== schemas

/-- A resolved schema is well-formed. -/
theorem Schema.ResolvedFrom.wellFormed {s : Schema} (h : s.ResolvedFrom env) : s.WellFormed := by
  have hfield : ∀ t ∈ s.tables, ∃ id request,
      t.ResolvedFrom env.locator (env.groundsIn s) request id := by
    intro t ht
    obtain ⟨id, hid⟩ := List.mem_iff_getElem?.1 ht
    obtain ⟨request, -, hresolved⟩ := h.tables id t hid
    exact ⟨id, request, hresolved⟩
  constructor
  case ids =>
    intro id t ht
    obtain ⟨request, -, hresolved⟩ := h.tables id t ht
    rw [hresolved.eq]
    rfl
  case laid =>
    intro t ht f hf
    obtain ⟨id, request, hresolved⟩ := hfield t ht
    obtain ⟨decl, v, x, -, -, hresolves⟩ := hresolved.field hf
    exact hresolves.laid
  case filled =>
    intro t ht f hf hoptional
    obtain ⟨id, request, hresolved⟩ := hfield t ht
    obtain ⟨decl, hdecl⟩ := hresolved.field hf
    exact hdecl.filled hoptional
  case keys =>
    intro t ht
    obtain ⟨id, request, hresolved⟩ := hfield t ht
    exact hresolved.checked.key
  case references =>
    intro t ht f hf r hr
    obtain ⟨id, request, hresolved⟩ := hfield t ht
    obtain ⟨decl, hdecl⟩ := hresolved.field hf
    exact (hdecl.reference (TableField.reference?_eq_some_iff.1 hr)).2.2

theorem wellFormed_of_resolveWithin {room : Nat}
    {answers : List TypeExpr → TypeExpr → Except Failure (List FieldDecl)} {locator : Locator}
    {request : Request} {s : Schema} (h : resolveWithin room answers locator request = .ok s) :
    s.WellFormed :=
  (resolveWithin_ok h).wellFormed

-- ============================================================ references

/-- A reference held by a field of a schema is sound: the last argument of
the type of the field leads to its table, which has exactly one primary
key, stored in one column and never null, whose values are of the type
that the wrapper fixes or the first argument declares, a type that is
stored as it is. The field itself has one column. -/
structure Reference.SoundIn (s : Schema) (f : TableField) (r : Reference) (source : Column)
    (target : Table) (key : TableField) (column : Column) : Prop where
  shape : ReferenceShape.ofName? f.valueType.name = some r.shape
  columns : f.columns = [source]
  found : ∃ entity, f.valueType.args.getLast? = some entity ∧
    findAssoc? s.lookup entity = some r.table ∧ s.tableFor? entity = some target ∧
    r.keyType = r.shape.keyType f.valueType.args entity
  table : s.tables[r.table]? = some target
  only : target.fields.filter (·.primaryKey) = [key]
  keyColumns : key.columns = [column]
  required : key.nullable = false
  keyType : key.valueType = r.keyType
  storage : Storage.ofNative? r.keyType = some r.key
  keyColumn : s.keyColumn r = .ok column

/-- The statements that create the table at `id` and the table of a
reference fit together: the first has a foreign key clause for it, which
names a column that the second declares as the primary key. -/
structure Sql.ClausesFit (s : Schema) (id : TableId) (r : Reference) (source : Column)
    (target : Table) (column : Column) (flavor : Flavor) (ifNotExists : Bool) : Prop where
  clause : ∃ lines, clauses s flavor (.createTable id ifNotExists true) = .ok lines ∧
    ∃ after ∈ ["", ","], "    " ++ ("FOREIGN KEY(" ++ source.name ++ ") REFERENCES " ++
      target.name ++ "(" ++ column.name ++ ")") ++ after ∈ lines
  declared : ∀ foreignKeys, ∃ lines,
    clauses s flavor (.createTable r.table ifNotExists foreignKeys) = .ok lines ∧
    ∃ rest, "    " ++ (column.name ++ " " ++ flavor.columnType true column.storage ++
      " NOT NULL" ++ " PRIMARY KEY" ++ rest) ∈ lines

/-- A sound reference of a well-formed schema is written by clauses that
fit together. -/
theorem Reference.SoundIn.clausesFit {s : Schema} (hs : s.WellFormed) {t : Table}
    (ht : t ∈ s.tables) {f : TableField} (hf : f ∈ t.fields) {r : Reference}
    (hr : f.reference? = some r) {source column : Column} {target : Table} {key : TableField}
    (h : r.SoundIn s f source target key column) (flavor : Sql.Flavor) (ifNotExists : Bool) :
    Sql.ClausesFit s t.id r source target column flavor ifNotExists := by
  have htarget : s.table r.table = .ok target := Schema.table_eq_ok.2 h.table
  constructor
  case clause =>
    obtain ⟨defs, hdefs⟩ := Sql.definitions_succeed hs ht true
    obtain ⟨lines, hlines, hmem⟩ := Sql.createTable_clauses (hs.table ht) hdefs
    -- the clause of the first statement
    have hclause : .reference source target column ∈ defs :=
      (Sql.reference_mem_definitions_iff hdefs).2
        ⟨f, hf, r, hr, TableField.column_eq_ok.2 h.columns, htarget, h.keyColumn⟩
    obtain ⟨after, hafter, hline⟩ := hmem _ hclause
    rw [Sql.reference_text] at hline
    exact ⟨lines, hlines, after, hafter, hline⟩
  case declared =>
    intro foreignKeys
    obtain ⟨defs, hdefs⟩ :=
      Sql.definitions_succeed hs (List.mem_of_getElem? h.table) foreignKeys
    obtain ⟨lines, hlines, hmem⟩ := Sql.createTable_clauses htarget hdefs
    -- the line of the second that declares the column it names
    have hkey : key ∈ target.fields.filter (·.primaryKey) := by
      rw [h.only]
      exact List.mem_singleton_self _
    obtain ⟨hkey, hprimary⟩ := List.mem_filter.1 hkey
    obtain ⟨initial, hcolumn⟩ := Sql.mem_definitions_column hdefs hkey
      (by rw [h.keyColumns]; exact List.mem_singleton_self _)
    obtain ⟨after, -, hline⟩ := hmem _ hcolumn
    obtain ⟨rest, htext⟩ := Sql.keyColumn_text flavor hprimary h.required
    refine ⟨lines, hlines, rest ++ after, ?_⟩
    rw [htext] at hline
    simpa only [String.append_assoc] using hline

/-- Whatever a describer answers, also if it answers differently each
time: if a request is resolved, every reference of every table is sound,
and so are the clauses written for it in every flavor. No other foreign
key clauses are written. -/
theorem references_sound {room : Nat}
    {answers : List TypeExpr → TypeExpr → Except Failure (List FieldDecl)} {locator : Locator}
    {request : Request} {s : Schema} (h : resolveWithin room answers locator request = .ok s)
    {t : Table} (ht : t ∈ s.tables) :
    (∀ f ∈ t.fields, ∀ r, f.reference? = some r → ∃ source target key column,
      r.SoundIn s f source target key column ∧
        ∀ flavor ifNotExists, Sql.ClausesFit s t.id r source target column flavor ifNotExists) ∧
    ∀ defs, Sql.definitions s t true = .ok defs → ∀ source target column,
      .reference source target column ∈ defs →
        ∃ f ∈ t.fields, ∃ r, f.reference? = some r ∧ f.columns = [source] ∧
          s.tables[r.table]? = some target ∧ s.keyColumn r = .ok column := by
  have hresolved := resolveWithin_ok h
  have hwell := hresolved.wellFormed
  constructor
  · intro f hf r hr
    obtain ⟨id, hid⟩ := List.mem_iff_getElem?.1 ht
    obtain ⟨model, -, htable⟩ := hresolved.tables id t hid
    obtain ⟨decl, hdecl⟩ := htable.field hf
    obtain ⟨htype, hdeclared, hkeyed⟩ :=
      hdecl.reference (TableField.reference?_eq_some_iff.1 hr)
    -- the key was compared at the end of the run, not when the reference was
    -- resolved
    obtain ⟨name, hcolumns⟩ := (hwell.laid t ht f hf).reference hr
    obtain ⟨target, key, column, htarget, honly, hkeyColumns, hnull, hkeyType, hcolumn⟩ :=
      hwell.referenced hkeyed
    obtain ⟨entity, hlast, hlookup, hdeclaredType⟩ := hdeclared.target
    have hvalue : f.valueType = decl.type.valueType := by
      unfold TableField.valueType
      rw [htype]
    have hsound : r.SoundIn s f ⟨name, r.key⟩ target key column := by
      refine ⟨?_, hcolumns, ⟨entity, ?_, hlookup, ?_, ?_⟩, htarget, honly, hkeyColumns, hnull,
        hkeyType, hdeclared.storage, hcolumn⟩
      · rw [hvalue]; exact hdeclared.shape
      · rw [hvalue]; exact hlast
      · unfold Schema.tableFor?
        rw [show findAssoc? s.lookup entity = some r.table from hlookup]
        exact htarget
      · rw [hvalue]; exact hdeclaredType
    exact ⟨_, target, key, column, hsound, fun flavor ifNotExists =>
      hsound.clausesFit hwell ht hf hr flavor ifNotExists⟩
  · intro defs hdefs source target column hmem
    obtain ⟨f, hf, r, hr, hsource, htarget, hcolumn⟩ :=
      (Sql.reference_mem_definitions_iff hdefs).1 hmem
    exact ⟨f, hf, r, hr, TableField.column_eq_ok.1 hsource, Schema.table_eq_ok.1 htarget,
      hcolumn⟩

/-- Two models that refer to each other. When the second is first asked
for, it is described by its key alone. -/
def mutualDescriber : Describer :=
  let key := FieldDecl.plain "id" (.named "i32")
  Catalog.empty.scriptedDescriber
    [(.named "User", [[key, .plain "post" (.generic "ForeignInt" [.named "Post"])]]),
     (.named "Post", [[key], [key, .plain "user" (.generic "ForeignInt" [.named "User"])]])]

/-- The request for the two models. -/
def mutualRequest : Request := ⟨[.ofModel (.named "User"), .ofModel (.named "Post")], []⟩

/-- The two models resolve, one with a reference to the other. -/
theorem mutual_resolves :
    ∃ (s : Schema) (t : Table) (f : TableField) (r : Reference),
      resolve mutualDescriber Registry.empty.locator mutualRequest = .ok s ∧ t ∈ s.tables ∧
        f ∈ t.fields ∧ f.reference? = some r := by
  have hfound : ((resolve mutualDescriber Registry.empty.locator mutualRequest).toOption.bind
      fun s => (s.tables.flatMap (·.fields)).find? (·.reference?.isSome)).isSome = true := by
    decide +kernel
  obtain ⟨f, hfound⟩ := Option.isSome_iff_exists.1 hfound
  obtain ⟨s, hs, hfind⟩ := Option.bind_eq_some_iff.1 hfound
  obtain ⟨t, ht, hf⟩ := List.mem_flatMap.1 (List.mem_of_find?_eq_some hfind)
  have hisSome : f.reference?.isSome = true := by simpa using List.find?_some hfind
  obtain ⟨r, hr⟩ := Option.isSome_iff_exists.1 hisSome
  exact ⟨s, t, f, r, Attempt.toOption_eq_some.1 hs, ht, hf, hr⟩

/-- Its references are sound. -/
theorem references_sound_mutual :
    ∃ s t f r source target key column,
      resolve mutualDescriber Registry.empty.locator mutualRequest = .ok s ∧
      t ∈ s.tables ∧ f ∈ t.fields ∧ f.reference? = some r ∧
      r.SoundIn s f source target key column := by
  obtain ⟨s, t, f, r, hs, ht, hf, hr⟩ := mutual_resolves
  obtain ⟨source, target, key, column, hsound, -⟩ := (references_sound hs ht).1 f hf r hr
  exact ⟨s, t, f, r, source, target, key, column, hs, ht, hf, hr, hsound⟩

end Rowsmith

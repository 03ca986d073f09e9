/-
The order of a request has no bearing on what it is resolved to.

A run goes through the models in order, and which of them are resolved
when a reference is met, or which structures are remembered, differs from
one order to the next. But what a run can find is said without a run:
the tables are those that are resolved from the declarations, and only
the positions they refer to depend on the order. So if a request is
resolved in one order it is in every other, to the same tables with their
positions renamed (`resolve_perm`).

References may well go in a circle. A model refers to the next by the key
that one declares, which can be seen before it is resolved, and so a
cycle of any length is resolved in every order too.
-/
import Rowsmith.Proofs.Resolve.Native
import Rowsmith.Proofs.Resolve.Renaming

namespace Rowsmith

variable {describe : TypeExpr → Except Failure (List FieldDecl)} {locator : Locator} {room : Nat}
  {models models' : List TableRequest} {structures : List TypeExpr}

-- ============================================================== schemas

/-- Two schemas are the same but for the positions of their tables: each
table stands at its new position and refers to new positions, is found by
the same types, and the structures are the same. -/
structure Schema.RenamedTo (σ : TableId → TableId) (s s' : Schema) : Prop where
  tables : ∀ id : TableId, s'.tables[σ id]? = (s.tables[id]?).map (·.rename σ)
  tableFor : ∀ type, s'.tableFor? type = (s.tableFor? type).map (·.rename σ)
  structures : ∀ n, n ∈ s'.structures ↔ n ∈ s.structures

theorem Request.Needs.perm (h : models.Perm models') {type : TypeExpr}
    (hneeds : (Request.mk models structures).Needs describe locator type) :
    (Request.mk models' structures).Needs describe locator type := by
  obtain ⟨root, hroot, hreaches⟩ := hneeds
  refine ⟨root, ?_, hreaches⟩
  rcases hroot with hroot | hroot
  · obtain ⟨model, hmodel, hneeds⟩ := hroot
    exact Or.inl ⟨model, h.subset hmodel, hneeds⟩
  · exact Or.inr hroot

/-- Schemas of the same models in two orders differ in the positions. -/
theorem Schema.ResolvedSteadily.renamedTo {s s' : Schema} {σ : Equiv.Perm TableId}
    (hperm : models.Perm models') (hmodels : ∀ id : TableId, models'[σ id]? = models[id]?)
    (h : s.ResolvedSteadily describe room locator ⟨models, structures⟩)
    (h' : s'.ResolvedSteadily describe room locator ⟨models', structures⟩) :
    s.RenamedTo σ s' := by
  have henv : ((Request.mk models structures).setting describe room locator s.lookup).RenamedTo σ
      ((Request.mk models' structures).setting describe room locator s'.lookup) :=
    Setting.renamedTo_moved rfl hmodels h.registers h'.registers
  have htables : ∀ id : TableId, s'.tables[σ id]? = (s.tables[id]?).map (·.rename σ) := by
    intro id
    cases hmodel : models[id]? with
    | some model =>
        obtain ⟨t, ht, hresolved⟩ := h.table hmodel
        obtain ⟨t', ht', hresolved'⟩ := h'.table ((hmodels id).trans hmodel)
        rw [ht, ht', hresolved'.unique (hresolved.rename henv)]
        rfl
    | none =>
        rw [h.noTable hmodel, h'.noTable ((hmodels id).trans hmodel)]
        rfl
  refine ⟨htables, fun type => ?_, fun n => ?_⟩
  · unfold Schema.tableFor?
    rw [show findAssoc? s'.lookup type = _ from henv.lookup type]
    show ((findAssoc? s.lookup type).map σ).bind _ = _
    cases findAssoc? s.lookup type with
    | none => rfl
    | some id => exact htables id
  · rw [h.structures, h'.structures]
    exact and_congr_right fun _ => ⟨Request.Needs.perm hperm.symm, Request.Needs.perm hperm⟩

/-- If a request is resolved in one order, it is in every other. -/
theorem resolveWithin_succeeds_of_perm (hroom : RoomFor describe room) (h : models.Perm models')
    (hs : ∃ s, resolveWithin room (fun _ => describe) locator ⟨models, structures⟩ = .ok s) :
    ∃ s, resolveWithin room (fun _ => describe) locator ⟨models', structures⟩ = .ok s := by
  obtain ⟨lookup, hlookup, htables, hstandalone⟩ := (resolveWithin_succeeds_iff hroom).1 hs
  have hdisjoint : KeysDisjoint models := registerAll_succeeds_iff.1 ⟨lookup, hlookup⟩
  obtain ⟨lookup', hlookup'⟩ := registerAll_succeeds_iff.2 ((KeysDisjoint.perm h).1 hdisjoint)
  -- models that can be registered are distinct, so each has its new position
  let σ := movedEquiv h hdisjoint.nodup
  have hmodels : ∀ id : TableId, models'[σ id]? = models[id]? := getElem?_moved h
  have henv : ((Request.mk models structures).setting describe room locator lookup).RenamedTo σ
      ((Request.mk models' structures).setting describe room locator lookup') :=
    Setting.renamedTo_moved rfl hmodels (registers_of_registerAll hlookup)
      (registers_of_registerAll hlookup')
  refine (resolveWithin_succeeds_iff hroom).2 ⟨lookup', hlookup', fun id model hmodel => ?_,
    hstandalone⟩
  -- the table of a model in the other order, at its position in this one
  have hid : σ (σ.symm id) = id := σ.apply_symm_apply id
  obtain ⟨t, ht⟩ := htables (σ.symm id) model (by rw [← hmodels, hid]; exact hmodel)
  have ht' := ht.rename henv
  rw [hid] at ht'
  exact ⟨_, ht'⟩

-- =========================================================== references

/-- A field refers to a model: its type is a wrapper over a type the model
is known by, and the type of the key it declares is that of the key the
model declares, which is stored as it is. -/
structure FieldDecl.RefersTo (describe : TypeExpr → Except Failure (List FieldDecl))
    (f : FieldDecl) (target : TableRequest) : Prop where
  wrapper : isReferenceType f.type.valueType = true
  declared : ∃ shape entity key storage,
    ReferenceShape.ofName? f.type.valueType.name = some shape ∧
    f.type.valueType.args.length = shape.arity ∧
    f.type.valueType.args.getLast? = some entity ∧ entity ∈ target.lookupKeys ∧
    target.declaredKey? describe = some (key, shape.keyType f.type.valueType.args entity) ∧
    Storage.ofNative? (shape.keyType f.type.valueType.args entity) = some storage

/-- A field has one column: its type is stored as it is, or it refers to
one of the models. -/
def FieldDecl.Single (describe : TypeExpr → Except Failure (List FieldDecl))
    (models : List TableRequest) (f : FieldDecl) : Prop :=
  (∃ storage, Storage.ofNative? f.type.valueType = some storage ∧
    (f.nullable = true → f.type.isOption = true)) ∨
  ∃ target ∈ models, f.RefersTo describe target

/-- The name of the column of such a field. -/
def FieldDecl.columnName (f : FieldDecl) : String :=
  if isReferenceType f.type.valueType then
    f.column.getD (Naming.foreignKeyColumn f.storageName)
  else f.storageName

/-- A model whose fields have one column each meets the checks on its
table. -/
structure TableRequest.Linked (describe : TypeExpr → Except Failure (List FieldDecl))
    (models : List TableRequest) (request : TableRequest) (decls : List FieldDecl) : Prop where
  described : describe request.model = .ok decls
  nonempty : decls ≠ []
  single : ∀ f ∈ decls, f.Single describe models ∧ f.defaults.length ≤ 1
  key : decls.filter (isPrimaryKey request) = [] ∨
    ∃ key, decls.filter (isPrimaryKey request) = [key] ∧
      (key.nullable || key.type.isOption) = false
  columns : (decls.map (·.columnName)).Nodup
  bridge : ∀ b, request.bridge = some b → ∀ name ∈ [b.left, b.right],
    ∃ f, decls.find? (fun f => f.name == name) = some f ∧
      isReferenceType f.type.valueType = true

/-- Models that share no types and refer to each other. Nothing is asked
of how the references run: they may go in cycles of any length. -/
structure Interlinked (describe : TypeExpr → Except Failure (List FieldDecl))
    (models : List TableRequest) : Prop where
  disjoint : KeysDisjoint models
  linked : ∀ request ∈ models, ∃ decls, request.Linked describe models decls

/-- What is known of the table field of a field with one column. -/
structure TableField.SingleFrom (request : TableRequest) (decl : FieldDecl) (f : TableField) :
    Prop where
  name : f.name = decl.name
  columns : f.columns.map (·.name) = [decl.columnName]
  primaryKey : f.primaryKey = isPrimaryKey request decl
  nullable : f.nullable = (decl.nullable || decl.type.isOption)
  reference : isReferenceType decl.type.valueType = true → f.isReference = true

theorem FieldDecl.RefersTo.steadyGrounds {env : Setting} {f : FieldDecl} {target : TableRequest}
    {id : TableId} (h : f.RefersTo describe target) (hregisters : Registers env.lookup env.models)
    (htarget : env.models[id]? = some target) : ∃ r, (env.steadyGrounds describe).refers f r := by
  obtain ⟨shape, entity, key, storage, hshape, harity, hentity, hmem, hkey, hstorage⟩ := h.declared
  refine ⟨⟨id, storage, shape.keyType f.type.valueType.args entity, shape⟩,
    ⟨hshape, harity, ⟨entity, hentity, ?_, rfl⟩, hstorage⟩, key, target, htarget, hkey⟩
  exact (hregisters entity id).2 ⟨target, htarget, hmem⟩

/-- A field that is resolved to one column takes its place in the
table. -/
theorem TableField.exists_resolves {request : TableRequest} {decl : FieldDecl} {x : Resolved}
    {c : Column} (hx : ∀ s, x ≠ .nested s) (hcolumn : (placeField decl x).1 = [c])
    (hdefaults : decl.defaults.length ≤ 1) : ∃ f : TableField, f.Resolves request decl x := by
  refine ⟨_, rfl, fun s hs => absurd hs (hx s), ?_⟩
  rw [hcolumn]
  rcases hdecl : decl.defaults with _ | ⟨d, _ | ⟨d', ds⟩⟩
  · rfl
  · rfl
  · rw [hdecl] at hdefaults
    simp at hdefaults

/-- A field with one column is resolved, wherever the models stand. -/
theorem FieldDecl.Single.resolves {env : Setting} {request : TableRequest} {decl : FieldDecl}
    (h : decl.Single describe env.models) (hdefaults : decl.defaults.length ≤ 1)
    (hregisters : Registers env.lookup env.models) :
    ∃ f : TableField, f.ResolvedFrom env.locator (env.steadyGrounds describe) request decl ∧
      f.SingleFrom request decl := by
  rcases h with ⟨storage, hnative, hnullable⟩ | ⟨target, htarget, hrefers⟩
  · obtain ⟨x, c, hx, hplain, hcolumn, hname⟩ :=
      exists_verdict?_of_ofNative? env.locator (.model request) hnative hnullable
    obtain ⟨f, hf⟩ : ∃ f : TableField, f.Resolves request decl x :=
      TableField.exists_resolves hplain hcolumn hdefaults
    have hwrapper := isReferenceType_of_ofNative? hnative
    refine ⟨f, ⟨_, x, hx, rfl, hf⟩, ?_⟩
    rw [hf.eq]
    refine ⟨rfl, ?_, rfl, rfl, fun h => ?_⟩
    · show (placeField decl x).1.map (·.name) = _
      unfold FieldDecl.columnName
      rw [hcolumn, hwrapper, if_neg Bool.false_ne_true, ← hname]
      rfl
    · rw [hwrapper] at h
      cases h
  · obtain ⟨id, hid⟩ := List.mem_iff_getElem?.1 htarget
    obtain ⟨r, hr⟩ := hrefers.steadyGrounds hregisters hid
    have hv : verdict? env.locator (.model request) decl = some (.reference request) := by
      unfold verdict?
      rw [if_pos hrefers.wrapper]
    obtain ⟨f, hf⟩ : ∃ f : TableField, f.Resolves request decl (.reference r) :=
      TableField.exists_resolves (fun _ h => nomatch h) rfl hdefaults
    refine ⟨f, ⟨_, _, hv, ⟨r, rfl, hr⟩, hf⟩, ?_⟩
    rw [hf.eq]
    refine ⟨rfl, ?_, rfl, rfl, fun _ => rfl⟩
    unfold FieldDecl.columnName
    rw [if_pos hrefers.wrapper]
    rfl

/-- The columns of fields that have one each are named as they are
declared. -/
theorem columns_of_singleFrom {request : TableRequest} {decls : List FieldDecl}
    {fields : List TableField}
    (h : List.Forall₂ (TableField.SingleFrom request) decls fields) :
    (fields.flatMap (·.columns)).map (·.name) = decls.map (·.columnName) := by
  induction h with
  | nil => rfl
  | @cons decl f decls fields hf _ ih =>
      rw [List.flatMap_cons, List.map_append, ih, hf.columns]
      rfl

/-- The table of a model whose fields have one column each passes the
checks. -/
theorem TableRequest.Linked.checked {request : TableRequest} {decls : List FieldDecl}
    {fields : List TableField} (h : request.Linked describe models decls)
    (hfields : List.Forall₂ (TableField.SingleFrom request) decls fields) :
    TableChecked request fields := by
  constructor
  case nonempty =>
    intro hnil
    rw [hnil] at hfields
    exact h.nonempty (List.forall₂_nil_right_iff.1 hfields)
  case key =>
    have hkeys : List.Forall₂ (TableField.SingleFrom request)
        (decls.filter (isPrimaryKey request)) (fields.filter (·.primaryKey)) :=
      List.rel_filter (fun decl f hf => Bool.eq_iff_iff.1 hf.primaryKey.symm) hfields
    rcases h.key with hnone | ⟨key, hone, hrequired⟩
    · rw [hnone] at hkeys
      exact Or.inl (List.forall₂_nil_left_iff.1 hkeys)
    · rw [hone] at hkeys
      obtain ⟨f, rest, hf, hrest, hfilter⟩ := List.forall₂_cons_left_iff.1 hkeys
      refine Or.inr ⟨f, ?_, ?_, hf.nullable.trans hrequired⟩
      · rw [hfilter, List.forall₂_nil_left_iff.1 hrest]
      · have hlength := congrArg List.length hf.columns
        rw [List.length_map] at hlength
        exact hlength
  case columns =>
    rw [columns_of_singleFrom hfields]
    exact h.columns
  case bridge =>
    intro b hb name hname
    obtain ⟨decl, hdecl, hreference⟩ := h.bridge b hb name hname
    have hfound : Option.Rel (TableField.SingleFrom request)
        (decls.find? (fun f => f.name == name)) (fields.find? (fun f => f.name == name)) :=
      Related.find?_rel (fun decl f hf => by rw [hf.name]) hfields
    rw [hdecl] at hfound
    generalize fields.find? (fun f => f.name == name) = found at hfound ⊢
    cases hfound with
    | some hf => exact ⟨_, rfl, hf.reference hreference⟩

theorem TableRequest.Linked.table {env : Setting} {request : TableRequest}
    {decls : List FieldDecl} (h : request.Linked describe env.models decls)
    (hregisters : Registers env.lookup env.models) (id : TableId) :
    ∃ t : Table, t.ResolvedFrom env.locator (env.steadyGrounds describe) request id := by
  have hresolves : ∀ decl ∈ decls, ∃ f : TableField,
      f.ResolvedFrom env.locator (env.steadyGrounds describe) request decl ∧
        f.SingleFrom request decl := by
    intro decl hdecl
    obtain ⟨hsingle, hdefaults⟩ := h.single decl hdecl
    exact hsingle.resolves hdefaults hregisters
  obtain ⟨fields, hfields⟩ := Related.exists_forall₂ hresolves
  exact ⟨request.toTable id fields, rfl,
    ⟨decls, h.described, hfields.imp fun _ _ hf => hf.1⟩,
    h.checked (hfields.imp fun _ _ hf => hf.2)⟩

theorem Interlinked.resolveWithin_succeeds (hroom : RoomFor describe room)
    (h : Interlinked describe models)
    (hstandalone : ∀ type ∈ structures, ∃ n, Nests describe locator type n) :
    ∃ s, resolveWithin room (fun _ => describe) locator ⟨models, structures⟩ = .ok s := by
  obtain ⟨lookup, hlookup⟩ := registerAll_succeeds_iff.2 h.disjoint
  refine (resolveWithin_succeeds_iff hroom).2 ⟨lookup, hlookup, fun id request hrequest => ?_,
    hstandalone⟩
  obtain ⟨decls, hlinked⟩ := h.linked request (List.mem_of_getElem? hrequest)
  have hregisters : Registers ((Request.mk models structures).setting describe room locator
      lookup).lookup ((Request.mk models structures).setting describe room locator lookup).models :=
    registers_of_registerAll hlookup
  exact TableRequest.Linked.table hlinked hregisters id

-- ================================================================ order

/-- The order of the models does not matter. In every order a request is
resolved or none is, and schemas of two orders are the same up to the
positions of their tables, which are renamed as the models are moved.
Models that refer to each other, in cycles of any length, are resolved in
every order, if the structures asked for on their own are. -/
theorem resolve_perm (c : Catalog) (registry : Registry) (structures : List TypeExpr)
    {models models' : List TableRequest} (h : models.Perm models') :
    ((∃ s, resolve c.describer registry.locator ⟨models, structures⟩ = .ok s) ↔
      ∃ s, resolve c.describer registry.locator ⟨models', structures⟩ = .ok s) ∧
    (∀ s s', resolve c.describer registry.locator ⟨models, structures⟩ = .ok s →
      resolve c.describer registry.locator ⟨models', structures⟩ = .ok s' →
      ∃ σ : Equiv.Perm TableId, (∀ id : TableId, models'[σ id]? = models[id]?) ∧
        s.RenamedTo σ s') ∧
    (Interlinked c.describe models →
      (∃ s, resolve c.describer registry.locator ⟨[], structures⟩ = .ok s) →
      ∃ s, resolve c.describer registry.locator ⟨models', structures⟩ = .ok s) := by
  have hroom : RoomFor c.describe c.describer.declared.length := by
    refine ⟨c.describer.declared, Nat.le_refl _, fun type fields hfields => ?_⟩
    by_contra htype
    obtain ⟨e, he⟩ := c.describer.fails_outside [] type htype
    cases hfields.symm.trans he
  refine ⟨⟨?_, ?_⟩, fun s s' hs hs' => ?_, fun hlinked hstandalone => ?_⟩
  · exact resolveWithin_succeeds_of_perm hroom h
  · exact resolveWithin_succeeds_of_perm hroom h.symm
  · obtain ⟨-, hlookup, -⟩ := resolveWithin_eq_ok.1 hs
    have hdisjoint : KeysDisjoint models := registerAll_succeeds_iff.1 ⟨s.lookup, hlookup⟩
    refine ⟨movedEquiv h hdisjoint.nodup, getElem?_moved h, ?_⟩
    exact (resolveWithin_steady hroom hs).renamedTo h (getElem?_moved h)
      (resolveWithin_steady hroom hs')
  · refine resolveWithin_succeeds_of_perm hroom h (hlinked.resolveWithin_succeeds hroom ?_)
    obtain ⟨s, hs⟩ := hstandalone
    exact (resolveWithin_steady hroom hs).standalone

/-- Two models that refer to each other, with keys of different types. -/
def pairCatalog : Catalog where
  decls := [
    ⟨.named "User", [.plain "id" (.named "i32"),
      .plain "pinned" (.generic "ForeignLong" [.named "Post"])], true, none, none, [], none⟩,
    ⟨.named "Post", [.plain "id" (.named "i64"),
      .plain "author" (.generic "ForeignInt" [.named "User"])], true, none, none, [], none⟩]
  unsupported := []

theorem pairCatalog_user : (TableRequest.ofModel (.named "User")).Linked pairCatalog.describe
    [.ofModel (.named "User"), .ofModel (.named "Post")]
    [.plain "id" (.named "i32"), .plain "pinned" (.generic "ForeignLong" [.named "Post"])] where
  described := rfl
  nonempty := List.cons_ne_nil _ _
  single := by
    intro f hf
    obtain rfl | rfl := List.mem_pair.1 hf
    · exact ⟨Or.inl ⟨.int, by decide⟩, by decide⟩
    · exact ⟨Or.inr ⟨.ofModel (.named "Post"), by decide, by decide,
        .long, .named "Post", "id", .long, by decide +kernel⟩, by decide⟩
  key := Or.inr ⟨.plain "id" (.named "i32"), by decide +kernel, by decide⟩
  columns := by decide +kernel
  bridge := fun _ hb => nomatch hb

theorem pairCatalog_post : (TableRequest.ofModel (.named "Post")).Linked pairCatalog.describe
    [.ofModel (.named "User"), .ofModel (.named "Post")]
    [.plain "id" (.named "i64"), .plain "author" (.generic "ForeignInt" [.named "User"])] where
  described := rfl
  nonempty := List.cons_ne_nil _ _
  single := by
    intro f hf
    obtain rfl | rfl := List.mem_pair.1 hf
    · exact ⟨Or.inl ⟨.long, by decide⟩, by decide⟩
    · exact ⟨Or.inr ⟨.ofModel (.named "User"), by decide, by decide,
        .int, .named "User", "id", .int, by decide +kernel⟩, by decide⟩
  key := Or.inr ⟨.plain "id" (.named "i64"), by decide +kernel, by decide⟩
  columns := by decide +kernel
  bridge := fun _ hb => nomatch hb

theorem pairCatalog_linked : Interlinked pairCatalog.describe
    [.ofModel (.named "User"), .ofModel (.named "Post")] := by
  constructor
  case disjoint =>
    have hother : TypeExpr.named "User" ∉ [TypeExpr.named "Post"] := by decide
    exact List.pairwise_pair.2 (List.singleton_disjoint.2 hother)
  case linked =>
    intro request hrequest
    obtain rfl | rfl := List.mem_pair.1 hrequest
    · exact ⟨_, pairCatalog_user⟩
    · exact ⟨_, pairCatalog_post⟩

/-- It is resolved in both orders, to the same tables. -/
theorem resolve_perm_pair :
    ∃ (s s' : Schema) (σ : Equiv.Perm TableId),
      resolve pairCatalog.describer Registry.empty.locator
        ⟨[.ofModel (.named "User"), .ofModel (.named "Post")], []⟩ = .ok s ∧
      resolve pairCatalog.describer Registry.empty.locator
        ⟨[.ofModel (.named "Post"), .ofModel (.named "User")], []⟩ = .ok s' ∧
      s.RenamedTo σ s' := by
  have hswap : [TableRequest.ofModel (.named "User"), .ofModel (.named "Post")].Perm
      [.ofModel (.named "Post"), .ofModel (.named "User")] := List.Perm.swap ..
  obtain ⟨hsucceeds, hrenamed, hlinked⟩ := resolve_perm pairCatalog Registry.empty [] hswap
  obtain ⟨s', hs'⟩ := hlinked pairCatalog_linked ⟨⟨[], [], []⟩, rfl⟩
  obtain ⟨s, hs⟩ := hsucceeds.2 ⟨s', hs'⟩
  obtain ⟨σ, -, hsame⟩ := hrenamed s s' hs hs'
  exact ⟨s, s', σ, hs, hs', hsame⟩

end Rowsmith

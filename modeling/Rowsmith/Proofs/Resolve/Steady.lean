/-
Runs where descriptions never change.

If a type is described alike each time it is asked for, what a request is
resolved to can be said without a run: a field declared as a reference
becomes one if the model it is to declares a key of the declared type,
and one declared as a structure if its type can be nested
(`Setting.steadyGrounds`). A run finds exactly the tables that are
resolved from these grounds, and remembers exactly the structures that
are needed for them.

# Keys

The key of a table is the one its model declares. So it makes no
difference whether a reference is resolved before or after the table it
is to, and whatever was foretold is borne out (`Progress.Faithful`). The
run can then fail only where a field, a table or a structure has no
resolution at all, which has nothing to do with the order of the models
(`resolveWithin_succeeds_iff`).
-/
import Rowsmith.Proofs.Resolve.Nesting

namespace Rowsmith

variable {describe : TypeExpr → Except Failure (List FieldDecl)} {env : Setting}
  {p p' : Progress} {request : TableRequest} {id : TableId}

-- ================================================================= keys

/-- The name of the primary key and the type of its values. -/
def Table.key? (t : Table) : Option (String × TypeExpr) :=
  t.primaryKey?.map fun key => (key.name, key.valueType)

/-- The name and the type of the primary key that a model declares. -/
def TableRequest.declaredKey? (describe : TypeExpr → Except Failure (List FieldDecl))
    (request : TableRequest) : Option (String × TypeExpr) :=
  match describe request.model with
  | .error _ => none
  | .ok decls =>
    (decls.find? (isPrimaryKey request)).map fun key => (key.name, key.type.valueType)

/-- The model at a position declares a primary key of this name and
type. -/
def DeclaresKey (describe : TypeExpr → Except Failure (List FieldDecl))
    (models : List TableRequest) (id : TableId) (key : String) (type : TypeExpr) : Prop :=
  ∃ request, models[id]? = some request ∧ request.declaredKey? describe = some (key, type)

/-- The tables have the keys that the models at their positions
declare. -/
def KeyedAsDeclared (describe : TypeExpr → Except Failure (List FieldDecl))
    (models : List TableRequest) (tables : List Table) : Prop :=
  ∀ (id : TableId) (t : Table), tables[id]? = some t →
    ∃ request, models[id]? = some request ∧ t.key? = request.declaredKey? describe

/-- A field is the key if it is declared so. -/
theorem TableField.ResolvedFrom.primaryKey {locator : Locator} {g : Grounds} {decl : FieldDecl}
    {f : TableField} (h : f.ResolvedFrom locator g request decl) :
    f.primaryKey = isPrimaryKey request decl ∧ f.name = decl.name ∧
      f.valueType = decl.type.valueType := by
  obtain ⟨_, _, -, -, hf⟩ := h
  rw [hf.eq]
  exact ⟨rfl, rfl, rfl⟩

theorem find?_primaryKey_eq {locator : Locator} {g : Grounds} {decls : List FieldDecl}
    {fields : List TableField}
    (h : List.Forall₂ (TableField.ResolvedFrom locator g request) decls fields) :
    (fields.find? (·.primaryKey)).map (fun key => (key.name, key.valueType)) =
      (decls.find? (isPrimaryKey request)).map fun key => (key.name, key.type.valueType) := by
  have hfound := Related.find?_rel (fun _ _ hf => hf.primaryKey.1.symm) h
  generalize decls.find? (isPrimaryKey request) = declared at hfound ⊢
  generalize fields.find? (·.primaryKey) = found at hfound ⊢
  cases hfound with
  | none => rfl
  | some hf => exact congrArg some (Prod.ext hf.primaryKey.2.1 hf.primaryKey.2.2)

/-- Tables that are resolved from what models are described with have the
keys that the models declare. -/
theorem CompletedFrom.keyedAsDeclared {locator : Locator} {g : Grounds}
    {models : List TableRequest} {tables : List Table}
    (h : CompletedFrom locator g models tables)
    (hg : ∀ type decls, g.described type decls → describe type = .ok decls) :
    KeyedAsDeclared describe models tables := by
  intro id t ht
  obtain ⟨request, hrequest, hresolved⟩ := h id t ht
  obtain ⟨decls, hdecls, hfields⟩ := hresolved.fields
  refine ⟨request, hrequest, ?_⟩
  unfold TableRequest.declaredKey?
  rw [hg _ _ hdecls]
  exact find?_primaryKey_eq hfields

-- ============================================================== grounds

/-- The grounds of a setting whose answers are those of a fixed
description. They do not mention a run. -/
def Setting.steadyGrounds (env : Setting)
    (describe : TypeExpr → Except Failure (List FieldDecl)) : Grounds where
  described type decls := describe type = .ok decls
  refers decl r := r.DeclaredBy env decl ∧
    ∃ key, DeclaresKey describe env.models r.table key r.keyType
  nests := Nests describe env.locator

theorem Reference.DeclaredBy.unique {decl : FieldDecl} {r r' : Reference}
    (h : r.DeclaredBy env decl) (h' : r'.DeclaredBy env decl) : r = r' := by
  have hshape : r.shape = r'.shape := Option.some.inj (h.shape.symm.trans h'.shape)
  obtain ⟨entity, hentity, htable, hkeyType⟩ := h.target
  obtain ⟨entity', hentity', htable', hkeyType'⟩ := h'.target
  obtain rfl := Option.some.inj (hentity.symm.trans hentity')
  have hsame : r.keyType = r'.keyType := by rw [hkeyType, hkeyType', hshape]
  have hkey := h.storage
  rw [hsame, h'.storage] at hkey
  cases r
  cases r'
  rw [Reference.mk.injEq]
  exact ⟨Option.some.inj (htable.symm.trans htable'), (Option.some.inj hkey).symm, hsame, hshape⟩

theorem TableField.ResolvedFrom.unique {decl : FieldDecl} {f f' : TableField}
    (h : f.ResolvedFrom env.locator (env.steadyGrounds describe) request decl)
    (h' : f'.ResolvedFrom env.locator (env.steadyGrounds describe) request decl) : f = f' := by
  obtain ⟨v, x, hv, hx, hf⟩ := h
  obtain ⟨v', x', hv', hx', hf'⟩ := h'
  obtain rfl := Option.some.inj (hv.symm.trans hv')
  have hrefers : ∀ r r', (env.steadyGrounds describe).refers decl r →
      (env.steadyGrounds describe).refers decl r' → r = r' := by
    intro r r' hr hr'
    obtain ⟨hr, -⟩ := hr
    obtain ⟨hr', -⟩ := hr'
    exact hr.unique hr'
  have hsame : x = x' := hx.unique hrefers (fun _ _ _ hs hs' => Nests.unique hs hs') hx'
  rw [hf.eq, hf'.eq, hsame]

/-- A table is determined by its model and its position. -/
theorem Table.ResolvedFrom.unique {t t' : Table}
    (h : t.ResolvedFrom env.locator (env.steadyGrounds describe) request id)
    (h' : t'.ResolvedFrom env.locator (env.steadyGrounds describe) request id) : t = t' := by
  obtain ⟨decls, hdecls, hfields⟩ := h.fields
  obtain ⟨decls', hdecls', hfields'⟩ := h'.fields
  obtain rfl := Except.ok.inj ((show describe request.model = _ from hdecls).symm.trans hdecls')
  have hsame : t.fields = t'.fields :=
    List.right_unique_forall₂' (fun _ _ _ hf hf' => hf.unique hf') hfields hfields'
  rw [h.eq, h'.eq, hsame]

/-- A type is needed for a request: a field of a model is stored as its
structure, or it is asked for on its own, or it is part of one of
these. -/
def Request.Needs (describe : TypeExpr → Except Failure (List FieldDecl)) (locator : Locator)
    (request : Request) (type : TypeExpr) : Prop :=
  ∃ root, ((∃ model ∈ request.models, (Owner.model model).Needs describe locator root) ∨
    root ∈ request.structures) ∧ Reaches describe locator root type

/-- What a run has resolved is what is declared: the tables have the
declared keys, so have those that were foretold, and the structures are
the right ones and are needed. -/
structure Progress.Faithful (env : Setting)
    (describe : TypeExpr → Except Failure (List FieldDecl)) (structures : List TypeExpr)
    (p : Progress) : Prop where
  keys : KeyedAsDeclared describe env.models p.tables
  predictions : ∀ prediction ∈ p.predictions,
    DeclaresKey describe env.models prediction.table prediction.key prediction.type
  memo : Memo describe env.locator p.structures
  needed : ∀ s ∈ p.structures, (Request.mk env.models structures).Needs describe env.locator s.type

-- =========================================================== references

variable {structures : List TypeExpr} {f : FieldDecl}

/-- The key that a run finds for a table that is referred to is the one
its model declares. -/
theorem referencedKey_faithful (hanswers : ∀ asked type, env.answers asked type = describe type)
    (hp : p.Faithful env describe structures) {key : String} {type : TypeExpr}
    (h : referencedKey env request f id p = .ok (some (key, type), p')) :
    DeclaresKey describe env.models id key type ∧ p'.Faithful env describe structures := by
  rcases referencedKey_eq_ok.1 h with
    ⟨t, k, ht, hk, hname, htype, rfl⟩ | ⟨-, m, decls, k, hm, hanswer, hk, hname, htype, rfl⟩
  · -- the table is there, with the key its model declares
    obtain ⟨request', hrequest', hkey⟩ := hp.keys id t ht
    refine ⟨⟨request', hrequest', ?_⟩, hp⟩
    rw [← hkey, Table.key?, hk, ← hname, ← htype]
    rfl
  · -- the key is read off the declared fields, and foretold
    rw [hanswers] at hanswer
    have hdeclares : DeclaresKey describe env.models id key type := by
      refine ⟨m, hm, ?_⟩
      rw [TableRequest.declaredKey?, hanswer, ← hname, ← htype]
      exact congrArg (Option.map _) hk
    refine ⟨hdeclares, hp.keys, fun prediction hprediction => ?_, hp.memo, hp.needed⟩
    rcases List.mem_append.1 hprediction with hprediction | hprediction
    · exact hp.predictions prediction hprediction
    · obtain rfl := List.mem_singleton.1 hprediction
      exact hdeclares

theorem referencedKey_succeeds (henv : env.Steady describe)
    (hp : p.Faithful env describe structures) {key : String} {type : TypeExpr}
    (h : DeclaresKey describe env.models id key type) :
    ∃ p', referencedKey env request f id p = .ok (some (key, type), p') := by
  obtain ⟨m, hm, hdeclared⟩ := h
  cases ht : p.tables[id]? with
  | some t =>
      obtain ⟨m', hm', hkey⟩ := hp.keys id t ht
      obtain rfl := Option.some.inj (hm.symm.trans hm')
      obtain ⟨k, hk, hsame⟩ := Option.map_eq_some_iff.1 (hkey.trans hdeclared)
      obtain ⟨hname, htype⟩ := Prod.mk.inj hsame
      exact ⟨p, referencedKey_eq_ok.2 (Or.inl ⟨t, k, ht, hk, hname, htype, rfl⟩)⟩
  | none =>
      unfold TableRequest.declaredKey? at hdeclared
      cases hdecls : describe m.model with
      | error e =>
          rw [hdecls] at hdeclared
          cases hdeclared
      | ok decls =>
          rw [hdecls] at hdeclared
          obtain ⟨k, hk, hsame⟩ := Option.map_eq_some_iff.1 hdeclared
          obtain ⟨hname, htype⟩ := Prod.mk.inj hsame
          exact ⟨_, referencedKey_eq_ok.2 (Or.inr ⟨ht, m, decls, k, hm,
            (henv.answers _ _).trans hdecls, hk, hname, htype, rfl⟩)⟩

-- =============================================================== fields

/-- Whatever is needed for a structure that is needed is needed. -/
theorem Progress.Faithful.nested (hp : p.Faithful env describe structures) {type : TypeExpr}
    (hneeds : (Request.mk env.models structures).Needs describe env.locator type)
    (h : p.Nested describe env.locator type p') (htables : p'.tables = p.tables) :
    p'.Faithful env describe structures := by
  refine ⟨htables ▸ hp.keys, h.predictions ▸ hp.predictions, h.memo, fun s hs => ?_⟩
  rcases h.needed s hs with hs | hs
  · exact hp.needed s hs
  · obtain ⟨root, hroot, hreaches⟩ := hneeds
    exact ⟨root, hroot, hreaches.trans hs⟩

theorem structureOf_faithful (hanswers : ∀ asked type, env.answers asked type = describe type)
    (hp : p.Faithful env describe structures) {type : TypeExpr} {s : Structure}
    (hneeds : (Request.mk env.models structures).Needs describe env.locator type)
    (h : structureOf env type p = .ok (s, p')) : p'.Faithful env describe structures :=
  hp.nested hneeds (structureWithin_sound hanswers _ _ _ _ hp.memo h).2.2
    (structureWithin_continues h).tables

theorem tableField_faithful (hanswers : ∀ asked type, env.answers asked type = describe type)
    (hp : p.Faithful env describe structures) (hrequest : request ∈ env.models)
    {decls : List FieldDecl} (hdecls : describe request.model = .ok decls) {decl : FieldDecl}
    (hdecl : decl ∈ decls) {f : TableField}
    (h : tableField env request decl p = .ok (f, p')) : p'.Faithful env describe structures := by
  obtain ⟨x, hx, -⟩ := tableField_eq_ok.1 h
  obtain ⟨v, hv, hyields⟩ := resolveField_eq_ok.1 hx
  cases v with
  | settled y =>
      obtain ⟨-, rfl⟩ := hyields
      exact hp
  | reference request =>
      obtain ⟨r, hr, -⟩ := hyields
      obtain ⟨-, key, hkey⟩ := resolveReference_eq_ok.1 hr
      exact (referencedKey_faithful hanswers hp hkey).2
  | nested type =>
      obtain ⟨s, hs, -⟩ := hyields
      refine structureOf_faithful hanswers hp ?_ hs
      exact ⟨type, Or.inl ⟨request, hrequest, decls, decl, hdecls, hdecl, hv⟩, .refl⟩

/-- A field that has a resolution is resolved, whenever it is tried. -/
theorem tableField_succeeds (henv : env.Steady describe)
    (hp : p.Faithful env describe structures) {decl : FieldDecl} {f : TableField}
    (h : f.ResolvedFrom env.locator (env.steadyGrounds describe) request decl) :
    ∃ p', tableField env request decl p = .ok (f, p') := by
  obtain ⟨v, x, hv, hx, hf⟩ := h
  have hyields : ∃ p', v.Yields env (structureOf env) decl p x p' := by
    cases v with
    | settled y => exact ⟨p, hx, rfl⟩
    | reference request =>
        obtain ⟨r, hx, hdeclared, key, hkey⟩ := hx
        obtain ⟨p', hp'⟩ := referencedKey_succeeds henv hp hkey
        exact ⟨p', r, resolveReference_eq_ok.2 ⟨hdeclared, key, hp'⟩, hx⟩
    | nested type =>
        obtain ⟨s, hx, hs⟩ := hx
        obtain ⟨p', hp'⟩ := structureOf_complete henv hs hp.memo
        exact ⟨p', s, hp', hx⟩
  obtain ⟨p', hyields⟩ := hyields
  exact ⟨p', tableField_eq_ok.2 ⟨x, resolveField_eq_ok.2 ⟨v, hv, hyields⟩, hf⟩⟩

-- =============================================================== tables

theorem Progress.Faithful.ask (hp : p.Faithful env describe structures) (asked : List TypeExpr) :
    ({ p with asked := asked } : Progress).Faithful env describe structures :=
  ⟨hp.keys, hp.predictions, hp.memo, hp.needed⟩

theorem completeTable_faithful (hanswers : ∀ asked type, env.answers asked type = describe type)
    (hrequest : env.models[id]? = some request) (hcompleted : p.Completed env id)
    (hp : p.Faithful env describe structures)
    (h : completeTable env id request p = .ok ((), p')) :
    p'.Completed env (id + 1) ∧ p'.Faithful env describe structures := by
  have hcompleted' := completeTable_ok hrequest hcompleted h
  have hkeys : KeyedAsDeclared describe env.models p'.tables := by
    refine hcompleted'.tables.keyedAsDeclared fun type decls hdescribed => ?_
    obtain ⟨asked, hanswer⟩ := hdescribed
    exact (hanswers asked type).symm.trans hanswer
  obtain ⟨decls, fields, q, hanswer, hfields, -, rfl⟩ := completeTable_eq_ok.1 h
  rw [hanswers] at hanswer
  have hq : q.Faithful env describe structures :=
    Step.mapM_keeps (fun q => q.Faithful env describe structures)
      (fun decl hdecl f q q' hq hf =>
        tableField_faithful hanswers hq (List.mem_of_getElem? hrequest) hanswer hdecl hf)
      (hp.ask _) hfields
  exact ⟨hcompleted', hkeys, hq.predictions, hq.memo, hq.needed⟩

/-- A model that has a table is completed, whenever it is its turn. -/
theorem completeTable_succeeds (henv : env.Steady describe)
    (hrequest : env.models[id]? = some request) (hp : p.Faithful env describe structures)
    {t : Table} (h : t.ResolvedFrom env.locator (env.steadyGrounds describe) request id) :
    ∃ p', completeTable env id request p = .ok ((), p') := by
  obtain ⟨decls, hdecls, hfields⟩ := h.fields
  have hrun : ∃ q, decls.mapM (tableField env request)
      { p with asked := p.asked ++ [request.model] } = .ok (t.fields, q) ∧
      q.Faithful env describe structures := by
    refine Step.mapM_succeeds (fun q => q.Faithful env describe structures) _
      (fun decl hdecl f q hf hq => ?_) (hp.ask _) hfields
    obtain ⟨q', hq'⟩ := tableField_succeeds henv hq hf
    exact ⟨q', hq', tableField_faithful henv.answers hq (List.mem_of_getElem? hrequest) hdecls hdecl
      hq'⟩
  obtain ⟨q, hrun, -⟩ := hrun
  exact ⟨_, completeTable_eq_ok.2
    ⟨decls, t.fields, q, (henv.answers _ _).trans hdecls, hrun, h.checked, rfl⟩⟩

theorem Progress.Faithful.start : Progress.start.Faithful env describe structures where
  keys _ _ h := nomatch h
  predictions _ h := nomatch h
  memo := .nil
  needed _ h := nomatch h

theorem completeAll_faithful (hanswers : ∀ asked type, env.answers asked type = describe type)
    (h : completeAll env .start = .ok ((), p)) : p.Faithful env describe structures :=
  (Step.zipIdx_forM_ok
    (fun count q => q.Completed env count ∧ q.Faithful env describe structures)
    (fun _ _ _ _ hrequest hq hstep => completeTable_faithful hanswers hrequest hq.1 hq.2 hstep)
    ⟨.start, .start⟩ h).2

/-- Keys that were foretold are declared, and so the tables have them once
all models are completed. -/
theorem Progress.Faithful.borneOut (hp : p.Faithful env describe structures)
    (hcompleted : p.Completed env env.models.length) {prediction : Prediction}
    (hprediction : prediction ∈ p.predictions) : prediction.BorneOut p.tables := by
  obtain ⟨request, hrequest, hdeclared⟩ := hp.predictions prediction hprediction
  have hlength := (List.getElem?_eq_some_iff.1 hrequest).1
  rw [← hcompleted.length] at hlength
  have ht := List.getElem?_eq_getElem hlength
  obtain ⟨request', hrequest', hkey⟩ := hp.keys prediction.table _ ht
  obtain rfl := Option.some.inj (hrequest.symm.trans hrequest')
  obtain ⟨key, hkey, hsame⟩ := Option.map_eq_some_iff.1 (hkey.trans hdeclared)
  obtain ⟨hname, htype⟩ := Prod.mk.inj hsame
  exact ⟨_, key, ht, hkey, hname, htype⟩

/-- All models are completed if there is a table for each of them. -/
theorem completeAll_succeeds (henv : env.Steady describe)
    (h : ∀ (id : TableId) (request : TableRequest), env.models[id]? = some request →
      ∃ t : Table, t.ResolvedFrom env.locator (env.steadyGrounds describe) request id) :
    ∃ p, completeAll env .start = .ok ((), p) := by
  have hrun : ∃ p, completeAll env .start = .ok ((), p) ∧
      p.Completed env env.models.length ∧ p.Faithful env describe [] := by
    refine Step.zipIdx_forM_succeeds
      (fun count q => q.Completed env count ∧ q.Faithful env describe [])
      (fun id request q hrequest hq => ?_) ⟨.start, .start⟩
    obtain ⟨t, ht⟩ := h id request hrequest
    obtain ⟨q', hq'⟩ := completeTable_succeeds henv hrequest hq.2 ht
    exact ⟨q', hq', completeTable_faithful henv.answers hrequest hq.1 hq.2 hq'⟩
  obtain ⟨p, hp, -⟩ := hrun
  exact ⟨p, hp⟩

-- =========================================================== structures

/-- Resolving structures on their own, if they are needed: each of them is
remembered afterwards. -/
theorem resolveStructures_faithful (hanswers : ∀ asked type, env.answers asked type = describe type)
    (hp : p.Faithful env describe structures) {types : List TypeExpr} (htypes : types ⊆ structures)
    (h : resolveStructures env types p = .ok ((), p')) :
    p'.Faithful env describe structures ∧ ∀ type ∈ types, ∃ s ∈ p'.structures, s.type = type := by
  induction types generalizing p with
  | nil =>
      obtain rfl := resolveStructures_nil_eq_ok.1 h
      exact ⟨hp, fun _ h => nomatch h⟩
  | cons type types ih =>
      obtain ⟨s, q, hs, hrest⟩ := resolveStructures_cons_eq_ok.1 h
      have hneeds : (Request.mk env.models structures).Needs describe env.locator type :=
        ⟨type, Or.inr (htypes List.mem_cons_self), .refl⟩
      obtain ⟨hp', hknown⟩ := ih (structureOf_faithful hanswers hp hneeds hs)
        (fun _ h => htypes (List.mem_cons_of_mem _ h)) hrest
      refine ⟨hp', List.forall_mem_cons.2 ⟨?_, hknown⟩⟩
      obtain ⟨htype, hmem⟩ := structureWithin_known hs
      exact ⟨s, (resolveStructures_ok hrest).structures.subset hmem, htype⟩

theorem resolveStructures_succeeds (henv : env.Steady describe)
    (hp : Memo describe env.locator p.structures) {types : List TypeExpr}
    (htypes : ∀ type ∈ types, ∃ s, Nests describe env.locator type s) :
    ∃ p', resolveStructures env types p = .ok ((), p') := by
  induction types generalizing p with
  | nil => exact ⟨p, resolveStructures_nil_eq_ok.2 rfl⟩
  | cons type types ih =>
      obtain ⟨⟨s, hs⟩, htypes⟩ := List.forall_mem_cons.1 htypes
      obtain ⟨q, hq⟩ := structureOf_complete henv hs hp
      obtain ⟨-, -, hnested⟩ := structureWithin_sound henv.answers _ _ _ _ hp hq
      obtain ⟨p', hp'⟩ := ih hnested.memo htypes
      exact ⟨p', resolveStructures_cons_eq_ok.2 ⟨s, q, hq, hp'⟩⟩

-- ============================================================== schemas

theorem Schema.ResolvedFrom.imply_steady {s : Schema} (henv : env.Steady describe)
    (h : s.ResolvedFrom env) (hmemo : Memo describe env.locator s.structures) :
    (env.groundsIn s).Imply (env.steadyGrounds describe) := by
  have hdescribed : ∀ type decls, (env.groundsIn s).described type decls →
      describe type = .ok decls := by
    intro type decls hdecls
    obtain ⟨asked, hanswer⟩ := hdecls
    exact (henv.answers asked type).symm.trans hanswer
  refine ⟨hdescribed, fun decl r hr => ?_, fun type n hn => ?_⟩
  · obtain ⟨hdeclared, t, key, ht, hkey, htype⟩ := hr
    obtain ⟨request, hrequest, hsame⟩ := h.tables.keyedAsDeclared hdescribed r.table t ht
    refine ⟨hdeclared, key.name, request, hrequest, ?_⟩
    rw [← hsame, Table.key?, hkey, ← htype]
    rfl
  · obtain ⟨htype, hmem⟩ := hn
    exact htype ▸ hmemo.sound n hmem

section

variable {room : Nat} {locator : Locator} {request : Request} {s : Schema}

/-- The setting in which a request is resolved by a fixed description. -/
def Request.setting (describe : TypeExpr → Except Failure (List FieldDecl)) (room : Nat)
    (locator : Locator) (request : Request) (lookup : List (TypeExpr × TableId)) : Setting where
  answers _ := describe
  room := room
  locator := locator
  models := request.models
  lookup := lookup

/-- What a request is resolved to by a fixed description: the tables that
are resolved from it, and the structures that are needed. -/
structure Schema.ResolvedSteadily (describe : TypeExpr → Except Failure (List FieldDecl))
    (room : Nat) (locator : Locator) (request : Request) (s : Schema) : Prop where
  registers : Registers s.lookup request.models
  length : s.tables.length = request.models.length
  tables : CompletedFrom locator
    ((request.setting describe room locator s.lookup).steadyGrounds describe)
    request.models s.tables
  structures : ∀ n, n ∈ s.structures ↔
    Nests describe locator n.type n ∧ request.Needs describe locator n.type
  standalone : ∀ type ∈ request.structures, ∃ n, Nests describe locator type n

/-- Where there is a model there is its table, -/
theorem Schema.ResolvedSteadily.table (h : s.ResolvedSteadily describe room locator request)
    {model : TableRequest} (hmodel : request.models[id]? = some model) :
    ∃ t, s.tables[id]? = some t ∧ t.ResolvedFrom locator
      ((request.setting describe room locator s.lookup).steadyGrounds describe) model id := by
  have hlength := (List.getElem?_eq_some_iff.1 hmodel).1
  rw [← h.length] at hlength
  have ht := List.getElem?_eq_getElem hlength
  obtain ⟨model', hmodel', hresolved⟩ := h.tables id _ ht
  obtain rfl := Option.some.inj (hmodel.symm.trans hmodel')
  exact ⟨_, ht, hresolved⟩

/-- and nowhere else is there a table. -/
theorem Schema.ResolvedSteadily.noTable (h : s.ResolvedSteadily describe room locator request)
    (hmodel : request.models[id]? = none) : s.tables[id]? = none := by
  rw [List.getElem?_eq_none_iff, h.length]
  exact List.getElem?_eq_none_iff.1 hmodel

/-- A structure that a field of a resolved table is stored as is among
those of the schema. -/
theorem Schema.ResolvedFrom.needed (henv : env.Steady describe) (h : s.ResolvedFrom env)
    {model : TableRequest} (hmodel : model ∈ env.models) {type : TypeExpr}
    (hneeds : (Owner.model model).Needs describe env.locator type) :
    ∃ n ∈ s.structures, n.type = type := by
  obtain ⟨decls, decl, hdecls, hdecl, hv⟩ := hneeds
  obtain ⟨id, hid⟩ := List.mem_iff_getElem?.1 hmodel
  obtain ⟨t, ht⟩ : ∃ t, s.tables[id]? = some t := by
    have hlength := (List.getElem?_eq_some_iff.1 hid).1
    rw [← h.length] at hlength
    exact ⟨_, List.getElem?_eq_getElem hlength⟩
  obtain ⟨model', hmodel', hresolved⟩ := h.tables id t ht
  obtain rfl := Option.some.inj (hid.symm.trans hmodel')
  obtain ⟨decls', ⟨asked, hanswer⟩, hfields⟩ := hresolved.fields
  rw [henv.answers] at hanswer
  obtain rfl := Except.ok.inj (hdecls.symm.trans hanswer)
  obtain ⟨f, -, v, x, hv', hx, -⟩ := Related.exists_mem hfields hdecl
  obtain rfl := Option.some.inj (hv.symm.trans hv')
  obtain ⟨n, -, htype, hmem⟩ := hx
  exact ⟨n, hmem, htype⟩

theorem resolveWithin_steady (hroom : RoomFor describe room)
    (h : resolveWithin room (fun _ => describe) locator request = .ok s) :
    s.ResolvedSteadily describe room locator request := by
  have henv : (request.setting describe room locator s.lookup).Steady describe :=
    ⟨fun _ _ => rfl, hroom⟩
  have hresolved : s.ResolvedFrom (request.setting describe room locator s.lookup) :=
    resolveWithin_ok h
  obtain ⟨p', -, hall, -, hstructures⟩ := resolveWithin_eq_ok.1 h
  obtain ⟨p, hcomplete, -, hrest⟩ := resolveAll_eq_ok.1 hall
  obtain ⟨hfaithful, hknown⟩ := resolveStructures_faithful henv.answers
    (completeAll_faithful henv.answers hcomplete) (List.Subset.refl request.structures) hrest
  have hmemo : Memo describe locator s.structures := hstructures ▸ hfaithful.memo
  refine ⟨hresolved.registers, hresolved.length,
    hresolved.tables.mono (hresolved.imply_steady henv hmemo),
    fun n => ⟨fun hn => ?_, fun hn => ?_⟩, fun type htype => ?_⟩
  · exact ⟨hmemo.sound n hn, hfaithful.needed n (hstructures ▸ hn)⟩
  · -- the root is remembered, since it was resolved, and so is what it reaches
    obtain ⟨hnests, root, hroot, hreaches⟩ := hn
    have hfound : ∃ m ∈ s.structures, m.type = root := by
      rcases hroot with hroot | hroot
      · obtain ⟨model, hmodel, hneeds⟩ := hroot
        exact hresolved.needed henv hmodel hneeds
      · rw [hstructures]
        exact hknown root hroot
    obtain ⟨m, hm, rfl⟩ := hfound
    obtain ⟨n', hn', htype⟩ := hmemo.reaches hm hreaches
    rw [hnests.unique (htype ▸ hmemo.sound n' hn')]
    exact hn'
  · obtain ⟨n, hn, rfl⟩ := hknown type htype
    exact ⟨n, hfaithful.memo.sound n hn⟩

/-- A request is resolved by a fixed description exactly if the models can
be registered, there is a table for each of them, and the structures
asked for on their own can be nested. -/
theorem resolveWithin_succeeds_iff (hroom : RoomFor describe room) :
    (∃ s, resolveWithin room (fun _ => describe) locator request = .ok s) ↔
      ∃ lookup, registerAll request.models = .ok lookup ∧
        (∀ (id : TableId) (model : TableRequest), request.models[id]? = some model →
          ∃ t : Table, t.ResolvedFrom locator
            ((request.setting describe room locator lookup).steadyGrounds describe) model id) ∧
        ∀ type ∈ request.structures, ∃ n, Nests describe locator type n := by
  constructor
  · intro h
    obtain ⟨s, h⟩ := h
    obtain ⟨-, hlookup, -⟩ := resolveWithin_eq_ok.1 h
    have hs := resolveWithin_steady hroom h
    refine ⟨s.lookup, hlookup, fun id model hmodel => ?_, hs.standalone⟩
    obtain ⟨t, -, ht⟩ := hs.table hmodel
    exact ⟨t, ht⟩
  · intro h
    obtain ⟨lookup, hlookup, htables, hstandalone⟩ := h
    have henv : (request.setting describe room locator lookup).Steady describe :=
      ⟨fun _ _ => rfl, hroom⟩
    obtain ⟨p, hp⟩ := completeAll_succeeds henv htables
    have hfaithful : p.Faithful (request.setting describe room locator lookup) describe
        request.structures := completeAll_faithful henv.answers hp
    obtain ⟨p', hp'⟩ := resolveStructures_succeeds henv hfaithful.memo hstandalone
    -- nothing that was foretold can turn out wrong
    have hall := resolveAll_eq_ok.2
      ⟨p, hp, fun _ h => hfaithful.borneOut (completeAll_ok hp) h, hp'⟩
    exact ⟨⟨p'.tables, p'.structures, lookup⟩,
      resolveWithin_eq_ok.2 ⟨p', hlookup, hall, rfl, rfl⟩⟩

end

end Rowsmith

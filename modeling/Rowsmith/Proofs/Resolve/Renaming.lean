/-
Renaming positions. A schema refers to tables by their positions, and so
the same models in another order make a schema that differs in these.
What a renaming does to a table is said here (`Table.rename`), and that
what a table is resolved from is carried along by it
(`Table.ResolvedFrom.rename`).

The renaming of an order of the models is that of their positions
(`moved`). Models that can be registered are distinct, and so it leads
back and forth (`movedEquiv`).
-/
import Rowsmith.Proofs.Resolve.Steady
import Mathlib.Data.List.Nodup
import Mathlib.Logic.Equiv.Defs

namespace Rowsmith

variable {σ : TableId → TableId} {describe : TypeExpr → Except Failure (List FieldDecl)}
  {env env' : Setting} {request : TableRequest} {id : TableId}

-- ============================================================== schemas

def Reference.rename (σ : TableId → TableId) (r : Reference) : Reference :=
  { r with table := σ r.table }

def FieldKind.rename (σ : TableId → TableId) : FieldKind → FieldKind
  | .reference r => .reference (r.rename σ)
  | kind => kind

/-- A field with the references of it renamed, and nothing else
changed. -/
def TableField.rename (σ : TableId → TableId) (f : TableField) : TableField :=
  { f with kind := f.kind.rename σ }

/-- A table at its new position. -/
def Table.rename (σ : TableId → TableId) (t : Table) : Table :=
  { t with id := σ t.id, fields := t.fields.map (·.rename σ) }

def Resolved.rename (σ : TableId → TableId) : Resolved → Resolved
  | .reference r => .reference (r.rename σ)
  | x => x

/-- References stay references, and nothing else becomes one. -/
theorem TableField.rename_isReference (f : TableField) :
    (f.rename σ).isReference = f.isReference := by
  unfold isReference reference? rename
  cases f.kind with
  | reference r => rfl
  | _ => rfl

-- ============================================================ positions

section

variable {models models' : List TableRequest}

/-- Where the model at a position stands in another order. -/
def moved (models models' : List TableRequest) (id : TableId) : TableId :=
  match models[id]? with
  | some request => models'.idxOf request
  | none => id

theorem moved_of_getElem? (h : models[id]? = some request) :
    moved models models' id = models'.idxOf request := by
  unfold moved
  rw [h]

theorem moved_of_length_le (h : models.length ≤ id) : moved models models' id = id := by
  unfold moved
  rw [List.getElem?_eq_none h]

theorem getElem?_moved (h : models.Perm models') (id : TableId) :
    models'[moved models models' id]? = models[id]? := by
  rcases Nat.lt_or_ge id models.length with hid | hid
  · have hmem := h.subset (List.getElem_mem hid)
    rw [moved_of_getElem? (List.getElem?_eq_getElem hid), List.getElem?_idxOf hmem,
      List.getElem?_eq_getElem hid]
  · rw [moved_of_length_le hid, List.getElem?_eq_none hid,
      List.getElem?_eq_none (h.length_eq ▸ hid)]

theorem moved_moved (h : models.Perm models') (hmodels : models.Nodup) (id : TableId) :
    moved models' models (moved models models' id) = id := by
  rcases Nat.lt_or_ge id models.length with hid | hid
  · have hfound := (getElem?_moved h id).trans (List.getElem?_eq_getElem hid)
    rw [moved_of_getElem? hfound, hmodels.idxOf_getElem]
  · rw [moved_of_length_le hid, moved_of_length_le (h.length_eq ▸ hid)]

/-- The renaming of positions for distinct models in another order. -/
def movedEquiv (h : models.Perm models') (hmodels : models.Nodup) : Equiv.Perm TableId where
  toFun := moved models models'
  invFun := moved models' models
  left_inv := moved_moved h hmodels
  right_inv := moved_moved h.symm (h.nodup_iff.1 hmodels)

end

-- ============================================================= settings

/-- Two settings differ in the order of the models: each is at its new
position, and this is where its types lead to. -/
structure Setting.RenamedTo (σ : TableId → TableId) (env env' : Setting) : Prop where
  locator : env'.locator = env.locator
  models : ∀ id : TableId, env'.models[σ id]? = env.models[id]?
  lookup : ∀ type, findAssoc? env'.lookup type = (findAssoc? env.lookup type).map σ

theorem Setting.renamedTo_moved {σ : Equiv.Perm TableId} (hlocator : env'.locator = env.locator)
    (hmodels : ∀ id : TableId, env'.models[σ id]? = env.models[id]?)
    (h : Registers env.lookup env.models) (h' : Registers env'.lookup env'.models) :
    env.RenamedTo σ env' := by
  refine ⟨hlocator, hmodels, fun type => ?_⟩
  cases hfound : findAssoc? env.lookup type with
  | some id =>
      obtain ⟨request, hrequest, htype⟩ := (h type id).1 hfound
      exact (h' type (σ id)).2 ⟨request, (hmodels id).trans hrequest, htype⟩
  | none =>
      show findAssoc? env'.lookup type = none
      rw [h'.find?_eq_none_iff]
      -- a model that has the type stood somewhere before it was moved
      intro request hrequest htype
      obtain ⟨id', hid'⟩ := List.mem_iff_getElem?.1 hrequest
      have hid : env.models[σ.symm id']? = some request := by
        rw [← hmodels, Equiv.apply_symm_apply]
        exact hid'
      cases hfound.symm.trans ((h type (σ.symm id')).2 ⟨request, hid, htype⟩)

namespace Setting.RenamedTo

variable (h : env.RenamedTo σ env')
include h

theorem declaredBy {f : FieldDecl} {r : Reference} (hr : r.DeclaredBy env f) :
    (r.rename σ).DeclaredBy env' f := by
  obtain ⟨entity, hentity, htable, hkeyType⟩ := hr.target
  refine ⟨hr.shape, hr.arity, ⟨entity, hentity, ?_, hkeyType⟩, hr.storage⟩
  rw [h.lookup, htable]
  rfl

theorem declaresKey {key : String} {type : TypeExpr}
    (hkey : DeclaresKey describe env.models id key type) :
    DeclaresKey describe env'.models (σ id) key type := by
  obtain ⟨request, hrequest, hkey⟩ := hkey
  exact ⟨request, (h.models id).trans hrequest, hkey⟩

/-- What a field is resolved to is renamed with the references. -/
theorem holds {owner : Owner} {f : FieldDecl} {v : Verdict} {x : Resolved}
    (hv : verdict? env.locator owner f = some v) (hx : v.Holds (env.steadyGrounds describe) f x) :
    v.Holds (env'.steadyGrounds describe) f (x.rename σ) := by
  cases v with
  | settled y =>
      obtain rfl : x = y := hx
      -- what is settled is no reference
      cases foundBy_of_verdict? hv with
      | mapper found => rfl
      | native free stored => rfl
      | inline foreign => rfl
      | adapter foreign found columns => rfl
  | reference request =>
      obtain ⟨r, rfl, hdeclared, key, hkey⟩ := hx
      exact ⟨r.rename σ, rfl, h.declaredBy hdeclared, key, h.declaresKey hkey⟩
  | nested type =>
      obtain ⟨s, rfl, hs⟩ := hx
      refine ⟨s, rfl, ?_⟩
      show Nests describe env'.locator type s
      rw [h.locator]
      exact hs

end Setting.RenamedTo

-- =============================================================== tables

theorem placeField_rename (f : FieldDecl) (x : Resolved) :
    placeField f (x.rename σ) = ((placeField f x).1, (placeField f x).2.rename σ) := by
  cases x with
  | reference r => rfl
  | mapped conversion => rfl
  | native storage => rfl
  | adapted adapter => rfl
  | nested structured => rfl

theorem TableField.Resolves.rename {decl : FieldDecl} {x : Resolved} {f : TableField}
    (h : f.Resolves request decl x) : (f.rename σ).Resolves request decl (x.rename σ) := by
  refine ⟨?_, fun s hs => h.required s ?_, ?_⟩
  · rw [placeField_rename, h.eq]
    rfl
  · cases x with
    | nested s' => exact hs
    | reference r => cases hs
    | _ => exact hs
  · rw [placeField_rename]
    exact h.defaults

theorem TableField.ResolvedFrom.rename (henv : env.RenamedTo σ env') {decl : FieldDecl}
    {f : TableField} (h : f.ResolvedFrom env.locator (env.steadyGrounds describe) request decl) :
    (f.rename σ).ResolvedFrom env'.locator (env'.steadyGrounds describe) request decl := by
  obtain ⟨v, x, hv, hx, hf⟩ := h
  refine ⟨v, x.rename σ, ?_, henv.holds hv hx, hf.rename⟩
  rw [henv.locator]
  exact hv

/-- The checks on a table look at nothing that is renamed. -/
theorem TableChecked.rename {fields : List TableField} (h : TableChecked request fields) :
    TableChecked request (fields.map (·.rename σ)) := by
  constructor
  case nonempty => simpa using h.nonempty
  case key =>
    have hkeys : (fields.map (·.rename σ)).filter (·.primaryKey) =
        (fields.filter (·.primaryKey)).map (·.rename σ) := by
      rw [List.filter_map]
      rfl
    rw [hkeys]
    rcases h.key with hkey | ⟨key, hkey, hcount, hnull⟩
    · exact Or.inl (by rw [hkey]; rfl)
    · exact Or.inr ⟨key.rename σ, by rw [hkey]; rfl, hcount, hnull⟩
  case columns =>
    rw [List.flatMap_map]
    exact h.columns
  case bridge =>
    intro b hb name hname
    obtain ⟨f, hf, hreference⟩ := h.bridge b hb name hname
    refine ⟨f.rename σ, ?_, by rw [TableField.rename_isReference, hreference]⟩
    rw [List.find?_map]
    exact congrArg (Option.map _) hf

/-- What a table is resolved from is what the renamed table is resolved
from. -/
theorem Table.ResolvedFrom.rename (henv : env.RenamedTo σ env') {t : Table}
    (h : t.ResolvedFrom env.locator (env.steadyGrounds describe) request id) :
    (t.rename σ).ResolvedFrom env'.locator (env'.steadyGrounds describe) request (σ id) := by
  obtain ⟨decls, hdecls, hfields⟩ := h.fields
  refine ⟨?_, ⟨decls, hdecls, ?_⟩, h.checked.rename⟩
  · rw [h.eq]
    rfl
  · exact List.forall₂_map_right_iff.2 (hfields.imp fun _ _ hf => hf.rename henv)

end Rowsmith

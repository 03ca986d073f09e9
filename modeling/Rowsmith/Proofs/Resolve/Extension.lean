/-
Further models. A request with more models than another behind its own is
resolved, if it is, to a schema that begins with the tables of the other
(`Schema.ResolvedSteadily.tables_prefix`): a model that is resolved where it
stands does not see what comes after those it refers to.

A run could tell the two requests apart. More types are registered, and so
are more structures remembered and more keys foretold. But what a table is
resolved from counts for it in the larger request as well
(`Setting.Extends.imply`), and it can only be resolved to one table. What is
then read off the tables does not depend on more of the schema than they
refer to.
-/
import Rowsmith.Proofs.Follow.Extension
import Rowsmith.Proofs.Resolve.Integrity
import Rowsmith.Proofs.Resolve.Steady

namespace Rowsmith

variable {describe : TypeExpr → Except Failure (List FieldDecl)} {env env' : Setting}
  {locator : Locator} {room : Nat} {models more : List TableRequest} {structures : List TypeExpr}
  {s s' : Schema}

-- ============================================================= settings

/-- A setting has the models of another at their positions, and their types
lead there. -/
structure Setting.Extends (env env' : Setting) : Prop where
  locator : env'.locator = env.locator
  models : ∀ (id : TableId) request, env.models[id]? = some request →
    env'.models[id]? = some request
  lookup : ∀ type id, findAssoc? env.lookup type = some id →
    findAssoc? env'.lookup type = some id

/-- What is resolved in a setting can be resolved in a larger one. -/
theorem Setting.Extends.imply (h : env.Extends env') :
    (env.steadyGrounds describe).Imply (env'.steadyGrounds describe) := by
  refine ⟨fun _ _ hdescribed => hdescribed, fun decl r hr => ?_, fun type n hn => ?_⟩
  · obtain ⟨hdeclared, key, request, hrequest, hkey⟩ := hr
    obtain ⟨entity, hentity, htable, hkeyType⟩ := hdeclared.target
    exact ⟨⟨hdeclared.shape, hdeclared.arity, ⟨entity, hentity, h.lookup _ _ htable, hkeyType⟩,
      hdeclared.storage⟩, key, request, h.models _ _ hrequest, hkey⟩
  · show Nests describe env'.locator type n
    rw [h.locator]
    exact hn

/-- A model is resolved to the same table in a larger setting. -/
theorem Setting.Extends.table_eq (h : env.Extends env') {request : TableRequest} {id : TableId}
    {t t' : Table} (ht : t.ResolvedFrom env.locator (env.steadyGrounds describe) request id)
    (ht' : t'.ResolvedFrom env'.locator (env'.steadyGrounds describe) request id) : t' = t := by
  have hlarger := ht.mono h.imply
  rw [← h.locator] at hlarger
  exact ht'.unique hlarger

theorem getElem?_models {request : TableRequest} {id : TableId}
    (hrequest : models[id]? = some request) : (models ++ more)[id]? = some request := by
  rw [List.getElem?_append_left (List.getElem?_eq_some_iff.1 hrequest).1, hrequest]

/-- Types lead to the same models among more of them. -/
theorem Registers.append {lookup lookup' : List (TypeExpr × TableId)}
    (h : Registers lookup models) (h' : Registers lookup' (models ++ more)) {type : TypeExpr}
    {id : TableId} (hfound : findAssoc? lookup type = some id) :
    findAssoc? lookup' type = some id := by
  obtain ⟨request, hrequest, htype⟩ := (h type id).1 hfound
  exact (h' type id).2 ⟨request, getElem?_models hrequest, htype⟩

-- =============================================================== tables

/-- The tables of a request come first in what it is resolved to with
further models. -/
theorem Schema.ResolvedSteadily.tables_prefix
    (h : s.ResolvedSteadily describe room locator ⟨models, structures⟩)
    (h' : s'.ResolvedSteadily describe room locator ⟨models ++ more, structures⟩) :
    s.tables <+: s'.tables := by
  have henv : ((Request.mk models structures).setting describe room locator s.lookup).Extends
      ((Request.mk (models ++ more) structures).setting describe room locator s'.lookup) :=
    ⟨rfl, fun _ _ hrequest => getElem?_models hrequest,
      fun _ _ hfound => h.registers.append h'.registers hfound⟩
  refine List.prefix_iff_getElem?.2 fun id hid => ?_
  obtain ⟨request, hrequest, ht⟩ := h.tables id _ (List.getElem?_eq_getElem hid)
  -- the table at the position in the larger schema is resolved from the same
  obtain ⟨t', hfound, ht'⟩ := h'.table (getElem?_models hrequest)
  rw [hfound, henv.table_eq ht ht']

/-- A type that leads to a table still leads to it. -/
theorem Schema.ResolvedSteadily.tableFor?_eq
    (h : s.ResolvedSteadily describe room locator ⟨models, structures⟩)
    (h' : s'.ResolvedSteadily describe room locator ⟨models ++ more, structures⟩)
    {type : TypeExpr} {t : Table} (ht : s.tableFor? type = some t) :
    s'.tableFor? type = some t := by
  obtain ⟨id, hid, ht⟩ := Option.bind_eq_some_iff.1 ht
  refine Option.bind_eq_some_iff.2 ⟨id, h.registers.append h'.registers hid, ?_⟩
  rw [Schema.getElem?_eq (h.tables_prefix h') (List.getElem?_eq_some_iff.1 ht).1, ht]

/-- There is always room for the structures a catalog describes. -/
theorem Catalog.roomFor (c : Catalog) : RoomFor c.describe c.describer.declared.length :=
  ⟨c.describer.declared, Nat.le_refl _, fun _ _ => c.mem_declared⟩

/-- Further models never disturb the others. If a request is resolved, and
also with further models behind its own, then its tables are the first of
the larger schema, exactly as they were, and are found by the types they were
found by. For each of them and every policy the same cycles are found, the
same columns selected and counted and the same joins made, and every
statement on them is written in the same lines. -/
theorem resolve_append (c : Catalog) (registry : Registry) (models more : List TableRequest)
    (structures : List TypeExpr) {s s' : Schema}
    (h : resolve c.describer registry.locator ⟨models, structures⟩ = .ok s)
    (h' : resolve c.describer registry.locator ⟨models ++ more, structures⟩ = .ok s') :
    s.tables.length = models.length ∧ s'.tables.take models.length = s.tables ∧
    (∀ type t, s.tableFor? type = some t → s'.tableFor? type = some t) ∧
    (∀ t ∈ s.tables, ∀ policy,
      s'.reachesCycle t.id = s.reachesCycle t.id ∧
      s'.selectColumns t policy = s.selectColumns t policy ∧
      s'.joins t policy = s.joins t policy ∧
      s'.columnCount t.id policy = s.columnCount t.id policy) ∧
    ∀ statement : Sql.Statement,
      (∀ id, statement.table? = some id → ∃ t ∈ s.tables, t.id = id) →
      ∀ flavor, Sql.render s' flavor statement = Sql.render s flavor statement := by
  have hsteady := resolveWithin_steady c.roomFor h
  have hsteady' := resolveWithin_steady c.roomFor h'
  have hs := wellFormed_of_resolveWithin h
  have hmore := hsteady.tables_prefix hsteady'
  refine ⟨hsteady.length, ?_, fun type t ht => hsteady.tableFor?_eq hsteady' ht,
    fun t ht policy => ?_, fun statement hstatement flavor => ?_⟩
  · rw [← show s.tables.length = models.length from hsteady.length]
    exact (List.prefix_iff_eq_take.1 hmore).symm
  · have hid := hs.id_lt ht
    exact ⟨Schema.reachesCycle_eq hs hmore hid, Schema.selectColumns_eq hs hmore ht policy,
      Schema.joins_eq hs hmore ht policy, Schema.columnCount_eq hs hmore hid policy⟩
  · refine Sql.render_eq hs hmore flavor fun id hid => ?_
    obtain ⟨t, ht, rfl⟩ := hstatement id hid
    exact hs.id_lt ht

/-- Posts that refer to one another and to their authors, and tags of
them. -/
def threadCatalog : Catalog where
  decls := [
    ⟨.named "User", [.plain "id" (.named "i32")], true, none, none, [], none⟩,
    ⟨.named "Post", [.plain "id" (.named "i64"),
      .plain "author" (.generic "ForeignInt" [.named "User"]),
      .plain "reply" (.generic "ForeignLong" [.named "Post"])], true, none, none, [], none⟩,
    ⟨.named "Tag", [.plain "id" (.named "i32"),
      .plain "post" (.generic "ForeignLong" [.named "Post"])], true, none, none, [], none⟩]
  unsupported := []

/-- The tags are left out of one schema and are in another. -/
theorem resolve_append_thread : ∃ s s',
    resolve threadCatalog.describer Registry.empty.locator
      ⟨[.ofModel (.named "User"), .ofModel (.named "Post")], []⟩ = .ok s ∧
    resolve threadCatalog.describer Registry.empty.locator
      ⟨[.ofModel (.named "User"), .ofModel (.named "Post")] ++ [.ofModel (.named "Tag")], []⟩ =
        .ok s' ∧
    s'.tables.take 2 = s.tables := by
  obtain ⟨s, hs⟩ := Attempt.exists_ok (x := resolve threadCatalog.describer
    Registry.empty.locator ⟨[.ofModel (.named "User"), .ofModel (.named "Post")], []⟩)
    (by decide +kernel)
  obtain ⟨s', hs'⟩ := Attempt.exists_ok (x := resolve threadCatalog.describer
    Registry.empty.locator ⟨[.ofModel (.named "User"), .ofModel (.named "Post")] ++
      [.ofModel (.named "Tag")], []⟩) (by decide +kernel)
  obtain ⟨-, htables, -⟩ := resolve_append threadCatalog Registry.empty _ _ [] hs hs'
  exact ⟨s, s', hs, hs', htables⟩

end Rowsmith

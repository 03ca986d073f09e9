/-
What is known of a run that succeeded, whatever answers it was given.

# What stays

Resolving a field adds to what was resolved and takes nothing back
(`Progress.Continues`): the tables stay as they are until the next model
is completed, and foretold keys and nested structures are only appended
to. A fact about the progress that looks at these alone is therefore kept
once it is established.

# Keys

A reference is resolved before it is known what the referenced table will
look like, if that table is not completed yet. What is known at once is
that the run gives the table a key of the declared type
(`Progress.GivesKey`): either the table is there and has it, or it was
foretold. The second becomes the first at the end, when every foretold
key is borne out by the tables. So nothing has to be known about when a
table is completed, or about the answers a describer gives in between.
-/
import Rowsmith.Proofs.Resolve.Grounds
import Rowsmith.Proofs.Resolve.Registration
import Rowsmith.Proofs.Schema.WellFormed

namespace Rowsmith

variable {env : Setting} {p p' p'' : Progress}

-- ======================================================== what is kept

/-- What was resolved stays while a field is resolved: the tables are the
same, and predictions and structures are appended to. -/
structure Progress.Continues (p p' : Progress) : Prop where
  tables : p'.tables = p.tables
  predictions : p.predictions <+: p'.predictions
  structures : p.structures <+: p'.structures

theorem Progress.Continues.refl (p : Progress) : p.Continues p :=
  ⟨rfl, List.prefix_rfl, List.prefix_rfl⟩

theorem Progress.Continues.trans (h : p.Continues p') (h' : p'.Continues p'') :
    p.Continues p'' :=
  ⟨h'.tables.trans h.tables, h.predictions.trans h'.predictions,
    h.structures.trans h'.structures⟩

theorem Progress.Continues.ask (p : Progress) (type : TypeExpr) :
    p.Continues { p with asked := p.asked ++ [type] } :=
  ⟨rfl, List.prefix_rfl, List.prefix_rfl⟩

theorem resolveReference_continues {request : TableRequest} {f : FieldDecl} {r : Reference}
    (h : resolveReference env request f p = .ok (r, p')) : p.Continues p' := by
  obtain ⟨-, key, hkey⟩ := resolveReference_eq_ok.1 h
  rcases referencedKey_eq_ok.1 hkey with ⟨_, _, -, -, -, -, rfl⟩ | ⟨-, _, _, _, -, -, -, -, -, rfl⟩
  · exact .refl _
  · exact ⟨rfl, List.prefix_append .., List.prefix_rfl⟩

/-- A verdict is carried out by adding to what was resolved, if nesting
does so. -/
theorem Verdict.Yields.continues {nest : TypeExpr → Step Structure} {f : FieldDecl} {v : Verdict}
    {x : Resolved} (hnest : ∀ type s q q', nest type q = .ok (s, q') → q.Continues q')
    (h : v.Yields env nest f p x p') : p.Continues p' := by
  cases v with
  | settled y =>
      obtain ⟨-, rfl⟩ := h
      exact .refl _
  | reference request =>
      obtain ⟨r, hr, -⟩ := h
      exact resolveReference_continues hr
  | nested type =>
      obtain ⟨s, hs, -⟩ := h
      exact hnest type s p p' hs

theorem structureWithin_continues {room : Nat} {enclosing : List TypeExpr} {type : TypeExpr}
    {s : Structure} (h : structureWithin env room enclosing type p = .ok (s, p')) :
    p.Continues p' := by
  induction room generalizing enclosing type s p p' with
  | zero =>
      rcases structureWithin_eq_ok.1 h with ⟨-, rfl⟩ | ⟨-, -, room, _, _, _, hroom, -⟩
      · exact .refl _
      · cases hroom
  | succ room ih =>
      rcases structureWithin_eq_ok.1 h with
        ⟨-, rfl⟩ | ⟨-, -, room', fields, parts, q, hroom, -, -, hparts, -, rfl⟩
      · exact .refl _
      · obtain rfl := Nat.succ.inj hroom
        have hq : p.Continues q := Step.mapM_keeps p.Continues
          (fun f _ part q q' hq hpart => by
            obtain ⟨v, x, -, hx, -⟩ := resolvePart_eq_ok.1 hpart
            exact hq.trans (hx.continues fun _ _ _ _ hs => ih hs))
          (.ask p type) hparts
        exact ⟨hq.tables, hq.predictions, hq.structures.trans (List.prefix_append ..)⟩

/-- The structure of a type has that type and is known afterwards. -/
theorem structureWithin_known {room : Nat} {enclosing : List TypeExpr} {type : TypeExpr}
    {s : Structure} (h : structureWithin env room enclosing type p = .ok (s, p')) :
    s.type = type ∧ s ∈ p'.structures := by
  rcases structureWithin_eq_ok.1 h with
    ⟨hknown, rfl⟩ | ⟨-, -, _, _, parts, q, -, -, -, -, rfl, rfl⟩
  · exact ⟨by simpa using List.find?_some hknown, List.mem_of_find?_eq_some hknown⟩
  · exact ⟨rfl, List.mem_append_right _ (List.mem_singleton_self _)⟩

-- ================================================================= keys

/-- A run gives the referenced table a primary key of the declared type:
the table is there and has it, or it was foretold. -/
def Progress.GivesKey (p : Progress) (r : Reference) : Prop :=
  r.KeyedIn p.tables ∨
    ∃ prediction ∈ p.predictions, prediction.table = r.table ∧ prediction.type = r.keyType

theorem Progress.GivesKey.mono {r : Reference} (h : p.GivesKey r) (htables : p.tables <+: p'.tables)
    (hpredictions : p.predictions <+: p'.predictions) : p'.GivesKey r := by
  rcases h with ⟨t, key, ht, hkey⟩ | ⟨prediction, hmem, h⟩
  · refine Or.inl ⟨t, key, ?_, hkey⟩
    obtain ⟨more, hmore⟩ := htables
    rw [← hmore, List.getElem?_append_left (List.getElem?_eq_some_iff.1 ht).1]
    exact ht
  · exact Or.inr ⟨prediction, hpredictions.subset hmem, h⟩

/-- Once the tables bear out what was foretold, a key that was given is
the key of the table. -/
theorem Progress.GivesKey.found {r : Reference} (h : p.GivesKey r)
    (hborne : ∀ prediction ∈ p.predictions, prediction.BorneOut p.tables) :
    r.KeyedIn p.tables := by
  rcases h with h | ⟨prediction, hmem, htable, htype⟩
  · exact h
  · obtain ⟨t, key, ht, hkey, -, hvalue⟩ := hborne prediction hmem
    exact ⟨t, key, htable ▸ ht, hkey, hvalue.trans htype⟩

/-- A resolved reference says what its field declares, and the run gives
the referenced table a key of the declared type. -/
theorem resolveReference_ok {request : TableRequest} {f : FieldDecl} {r : Reference}
    (h : resolveReference env request f p = .ok (r, p')) :
    r.DeclaredBy env f ∧ p'.GivesKey r := by
  obtain ⟨hdeclared, key, hkey⟩ := resolveReference_eq_ok.1 h
  refine ⟨hdeclared, ?_⟩
  rcases referencedKey_eq_ok.1 hkey with
    ⟨t, k, ht, hk, -, htype, rfl⟩ | ⟨-, _, _, _, -, -, -, -, -, rfl⟩
  · exact Or.inl ⟨t, k, ht, hk, htype⟩
  · exact Or.inr ⟨_, List.mem_append_right _ (List.mem_singleton_self _), rfl, rfl⟩

-- =============================================================== fields

/-- The grounds of a run: descriptions that were given at some time, what
fields declare with the keys the run gives, and the structures it has
resolved. -/
def Setting.groundsAt (env : Setting) (p : Progress) : Grounds where
  described type decls := ∃ asked, env.answers asked type = .ok decls
  refers decl r := r.DeclaredBy env decl ∧ p.GivesKey r
  nests type s := s.type = type ∧ s ∈ p.structures

theorem Setting.groundsAt_imply (htables : p.tables <+: p'.tables)
    (hpredictions : p.predictions <+: p'.predictions)
    (hstructures : p.structures ⊆ p'.structures) :
    (env.groundsAt p).Imply (env.groundsAt p') where
  described _ _ h := h
  refers _ _ h := ⟨h.1, h.2.mono htables hpredictions⟩
  nests _ _ h := ⟨h.1, hstructures h.2⟩

theorem Progress.Continues.imply (h : p.Continues p') :
    (env.groundsAt p).Imply (env.groundsAt p') :=
  Setting.groundsAt_imply (h.tables ▸ List.prefix_rfl) h.predictions h.structures.subset

variable {request : TableRequest}

/-- A step that resolves a field of a table keeps what was resolved, and
the field is then resolved from its declaration. -/
theorem tableField_ok {decl : FieldDecl} {f : TableField}
    (h : tableField env request decl p = .ok (f, p')) :
    p.Continues p' ∧ f.ResolvedFrom env.locator (env.groundsAt p') request decl := by
  obtain ⟨x, hx, hf⟩ := tableField_eq_ok.1 h
  obtain ⟨v, hv, hyields⟩ := resolveField_eq_ok.1 hx
  refine ⟨hyields.continues fun _ _ _ _ hs => structureWithin_continues hs, v, x, hv, ?_, hf⟩
  cases v with
  | settled y => exact hyields.1
  | reference request =>
      obtain ⟨r, hr, rfl⟩ := hyields
      exact ⟨r, rfl, resolveReference_ok hr⟩
  | nested type =>
      obtain ⟨s, hs, rfl⟩ := hyields
      exact ⟨s, rfl, structureWithin_known hs⟩

-- =============================================================== tables

/-- The tables of the first models are completed. -/
structure Progress.Completed (env : Setting) (count : Nat) (p : Progress) : Prop where
  length : p.tables.length = count
  tables : CompletedFrom env.locator (env.groundsAt p) env.models p.tables

/-- Completing the next model adds its table and keeps the others as they
are. -/
theorem completeTable_ok {id : TableId} (hrequest : env.models[id]? = some request)
    (hp : p.Completed env id) (h : completeTable env id request p = .ok ((), p')) :
    p'.Completed env (id + 1) := by
  obtain ⟨decls, fields, q, hanswer, hfields, hchecked, rfl⟩ := completeTable_eq_ok.1 h
  obtain ⟨hcontinues, hresolved, -⟩ := Step.mapM_ok p.Continues
    (fun decl f q => f.ResolvedFrom env.locator (env.groundsAt q) request decl)
    (fun decl _ f q q' hq hf => by
      obtain ⟨hcontinues, hf⟩ := tableField_ok hf
      exact ⟨hq.trans hcontinues, hf, fun decl' f' hf' => hf'.mono hcontinues.imply⟩)
    (.ask p request.model) hfields
  -- while the fields are resolved no table is added
  have hlength : q.tables.length = id := by rw [hcontinues.tables, hp.length]
  -- what was known before the table is added is known after it
  have hkept : (env.groundsAt q).Imply
      (env.groundsAt { q with tables := q.tables ++ [request.toTable id fields] }) :=
    Setting.groundsAt_imply (List.prefix_append ..) List.prefix_rfl (List.Subset.refl _)
  have htables : CompletedFrom env.locator (env.groundsAt q) env.models q.tables := by
    rw [hcontinues.tables]
    exact hp.tables.mono hcontinues.imply
  constructor
  · show (q.tables ++ [_]).length = id + 1
    rw [List.length_append, List.length_singleton, hlength]
  · refine (htables.mono hkept).append (hlength ▸ hrequest) ?_
    rw [hlength]
    exact ⟨rfl, ⟨decls, ⟨p.asked, hanswer⟩, hresolved.imp fun _ _ hf => hf.mono hkept⟩, hchecked⟩

theorem Progress.Completed.start : Progress.start.Completed env 0 where
  length := rfl
  tables _ _ h := nomatch h

/-- After all models are completed there is a table for each of them. -/
theorem completeAll_ok (h : completeAll env .start = .ok ((), p)) :
    p.Completed env env.models.length :=
  Step.zipIdx_forM_ok (fun count q => q.Completed env count)
    (fun _ _ _ _ hrequest hq hstep => completeTable_ok hrequest hq hstep) .start h

theorem resolveStructures_ok {types : List TypeExpr}
    (h : resolveStructures env types p = .ok ((), p')) : p.Continues p' := by
  induction types generalizing p with
  | nil =>
      obtain rfl := resolveStructures_nil_eq_ok.1 h
      exact .refl p'
  | cons type types ih =>
      obtain ⟨s, q, hs, hrest⟩ := resolveStructures_cons_eq_ok.1 h
      exact (structureWithin_continues hs).trans (ih hrest)

-- ============================================================== schemas

/-- The grounds of a schema: its references have keys among its tables,
and its nested structures are among those it lists. -/
def Setting.groundsIn (env : Setting) (s : Schema) : Grounds where
  described type decls := ∃ asked, env.answers asked type = .ok decls
  refers decl r := r.DeclaredBy env decl ∧ r.KeyedIn s.tables
  nests type n := n.type = type ∧ n ∈ s.structures

/-- A schema is what the models of a setting were resolved to: every type
a model is known by leads to its position, and the table there is the one
of the model. -/
structure Schema.ResolvedFrom (env : Setting) (s : Schema) : Prop where
  registers : Registers env.lookup env.models
  lookup : s.lookup = env.lookup
  length : s.tables.length = env.models.length
  tables : CompletedFrom env.locator (env.groundsIn s) env.models s.tables

/-- A run that succeeds ends with the schema its models were resolved to,
whatever was answered in between. -/
theorem resolveWithin_ok {room : Nat}
    {answers : List TypeExpr → TypeExpr → Except Failure (List FieldDecl)} {locator : Locator}
    {request : Request} {s : Schema} (h : resolveWithin room answers locator request = .ok s) :
    s.ResolvedFrom ⟨answers, room, locator, request.models, s.lookup⟩ := by
  obtain ⟨p', hlookup, hall, htables, hstructures⟩ := resolveWithin_eq_ok.1 h
  obtain ⟨p, hcomplete, hborne, hrest⟩ := resolveAll_eq_ok.1 hall
  have hcompleted := completeAll_ok hcomplete
  have hcontinues := resolveStructures_ok hrest
  have hsame : s.tables = p.tables := htables.trans hcontinues.tables
  refine ⟨registers_of_registerAll hlookup, rfl, ?_, ?_⟩
  · rw [hsame]; exact hcompleted.length
  · rw [hsame]
    refine hcompleted.tables.mono ⟨fun _ _ h => h, fun _ r h => ⟨h.1, ?_⟩, fun _ n h => ⟨h.1, ?_⟩⟩
    · rw [hsame]
      exact h.2.found hborne
    · rw [hstructures]
      exact hcontinues.structures.subset h.2

end Rowsmith

/-
Tables as they are registered: drafts that are filled in once.

Every model is registered as a table before any of them is resolved. Such
a table is a draft: it has no fields, and whoever asks for them ends the
program; it is filled in when the fields of its model are resolved, and
filling it in a second time ends the program too. The run itself keeps a
list of finished tables, which has neither danger. Here it is shown that
the two agree at every moment of a run, whether it succeeds or not
(`Setting.keepsDrafts`): the draft that is filled in is empty, and the
drafts that are read are filled in.

# When drafts are read

There are two such moments. A reference reads the draft of its table if
it is filled in, and otherwise leaves it alone; there it matters only that
the type it names leads to a draft at all. At the end every foretold key
is compared with the draft it was foretold for, without looking whether it
is filled in. So the foretold keys have to be of registered tables
(`Progress.ForetellsWithin`), and all of these must be finished by then.
-/
import Rowsmith.Proofs.Resolve.Run

namespace Rowsmith

variable {env : Setting} {p p' q : Progress} {request : TableRequest} {id : Nat}

-- ================================================================ drafts

/-- The registered tables, each with its fields once it is filled in. -/
abbrev Drafts := List (Option (List TableField))

namespace Drafts

/-- Fills a draft in, which must be there and empty. -/
def fill? (drafts : Drafts) (id : TableId) (fields : List TableField) : Option Drafts :=
  match drafts[id]? with
  | some none => some (drafts.set id (some fields))
  | _ => none

/-- The fields of a draft, which must be there and filled in. -/
def fields? (drafts : Drafts) (id : TableId) : Option (List TableField) :=
  match drafts[id]? with
  | some fields => fields
  | none => none

end Drafts

/-- The registered tables at a moment of a run: those that are finished are
filled in. -/
def Progress.drafts (env : Setting) (p : Progress) : Drafts :=
  (List.range env.models.length).map fun id => (p.tables[id]?).map (·.fields)

theorem Progress.getElem?_drafts (h : id < env.models.length) :
    (p.drafts env)[id]? = some ((p.tables[id]?).map (·.fields)) := by
  unfold Progress.drafts
  rw [List.getElem?_map, List.getElem?_range h]
  rfl

/-- When the next table is finished, its draft is filled in. -/
theorem Progress.fill?_drafts (hid : id < env.models.length) (hlength : p.tables.length = id)
    (fields : List TableField) :
    (p.drafts env).fill? id fields =
      some (Progress.drafts env { p with tables := p.tables ++ [request.toTable id fields] }) := by
  have hempty : (p.drafts env)[id]? = some none := by
    rw [getElem?_drafts hid, List.getElem?_eq_none (Nat.le_of_eq hlength)]
    rfl
  unfold Drafts.fill?
  rw [hempty]
  apply congrArg some
  apply List.ext_getElem?
  intro i
  by_cases hi : i < env.models.length
  · rw [getElem?_drafts hi, List.getElem?_set, getElem?_drafts hi]
    by_cases hsame : id = i
    · subst hsame
      have hin : id < (p.drafts env).length := (List.getElem?_eq_some_iff.1 hempty).1
      rw [if_pos rfl, if_pos hin, ← hlength, List.getElem?_concat_length]
      rfl
    · rw [if_neg hsame]
      -- the other tables are finished or not as before
      apply congrArg fun t => some (Option.map Table.fields t)
      rcases Nat.lt_or_ge i p.tables.length with hlt | hge
      · exact (List.getElem?_append_left hlt).symm
      · have hafter : (p.tables ++ [request.toTable id fields]).length ≤ i := by
          rw [List.length_append, List.length_singleton]
          omega
        rw [List.getElem?_eq_none hge]
        exact (List.getElem?_eq_none hafter).symm
  · have hout : ∀ p' : Progress, (p'.drafts env).length ≤ i := by
      intro p'
      unfold Progress.drafts
      rw [List.length_map, List.length_range]
      omega
    rw [List.getElem?_eq_none (hout _), List.getElem?_set_ne (by omega),
      List.getElem?_eq_none (hout _)]

-- ========================================================= foretold keys

/-- Keys are foretold of registered tables alone. -/
def Progress.ForetellsWithin (env : Setting) (p : Progress) : Prop :=
  ∀ prediction ∈ p.predictions, prediction.table < env.models.length

theorem Progress.ForetellsWithin.start : Progress.start.ForetellsWithin env :=
  fun _ hprediction => nomatch hprediction

theorem resolveReference_foretellsWithin {f : FieldDecl} {r : Reference}
    (hp : p.ForetellsWithin env) (h : resolveReference env request f p = .ok (r, p')) :
    p'.ForetellsWithin env := by
  obtain ⟨-, key, hkey⟩ := resolveReference_eq_ok.1 h
  rcases referencedKey_eq_ok.1 hkey with
    ⟨_, _, -, -, -, -, rfl⟩ | ⟨-, m, _, _, hm, -, -, -, -, rfl⟩
  · exact hp
  · intro prediction hprediction
    rcases List.mem_append.1 hprediction with hold | hnew
    · exact hp prediction hold
    · rw [List.mem_singleton.1 hnew]
      exact (List.getElem?_eq_some_iff.1 hm).1

/-- Resolving a structure foretells nothing. -/
theorem structureWithin_predictions {room : Nat} {enclosing : List TypeExpr} {type : TypeExpr}
    {s : Structure} (h : structureWithin env room enclosing type p = .ok (s, p')) :
    p'.predictions = p.predictions := by
  induction room generalizing enclosing type s p p' with
  | zero =>
      rcases structureWithin_eq_ok.1 h with ⟨-, rfl⟩ | ⟨-, -, room, _, _, _, hroom, -⟩
      · rfl
      · cases hroom
  | succ room ih =>
      rcases structureWithin_eq_ok.1 h with
        ⟨-, rfl⟩ | ⟨-, -, room', fields, parts, q, hroom, -, -, hparts, -, rfl⟩
      · rfl
      obtain rfl := Nat.succ.inj hroom
      have hstart : { p with asked := p.asked ++ [type] }.predictions = p.predictions := rfl
      have hq : q.predictions = p.predictions := by
        refine Step.mapM_keeps (fun q => q.predictions = p.predictions) ?_ hstart hparts
        intro f _ part q q' hq hpart
        obtain ⟨v, x, hv, hx, -⟩ := resolvePart_eq_ok.1 hpart
        cases v with
        | settled y =>
            obtain ⟨-, rfl⟩ := hx
            exact hq
        | reference request => cases model_of_verdict?_reference hv
        | nested inner =>
            obtain ⟨s, hs, -⟩ := hx
            rw [ih hs]
            exact hq
      exact hq

theorem tableField_foretellsWithin {decl : FieldDecl} {f : TableField}
    (hp : p.ForetellsWithin env) (h : tableField env request decl p = .ok (f, p')) :
    p'.ForetellsWithin env := by
  obtain ⟨x, hx, -⟩ := tableField_eq_ok.1 h
  obtain ⟨v, -, hyields⟩ := resolveField_eq_ok.1 hx
  cases v with
  | settled y =>
      obtain ⟨-, rfl⟩ := hyields
      exact hp
  | reference request =>
      obtain ⟨r, hr, -⟩ := hyields
      exact resolveReference_foretellsWithin hp hr
  | nested type =>
      obtain ⟨s, hs, -⟩ := hyields
      unfold Progress.ForetellsWithin
      rw [structureWithin_predictions hs]
      exact hp

theorem completeTable_foretellsWithin (hp : p.ForetellsWithin env)
    (h : completeTable env id request p = .ok ((), p')) : p'.ForetellsWithin env := by
  obtain ⟨decls, fields, q, -, hfields, -, rfl⟩ := completeTable_eq_ok.1 h
  have hstart : Progress.ForetellsWithin env { p with asked := p.asked ++ [request.model] } := hp
  have hq : q.ForetellsWithin env := by
    refine Step.mapM_keeps (Progress.ForetellsWithin env) ?_ hstart hfields
    intro decl _ f q q' hq hf
    exact tableField_foretellsWithin hq hf
  exact hq

-- =============================================================== moments

/-- A moment of a run: the first models are completed, and of the next one
some fields are resolved and the rest are still to come. Whatever a run
does while it completes the models, it has come to such a moment. -/
structure Setting.Moment (env : Setting) (id : Nat) (request : TableRequest)
    (done rest : List FieldDecl) (fields : List TableField) (q : Progress) : Prop where
  next : env.models[id]? = some request
  reached : ∃ p, ((env.models.take id).zipIdx.forM fun (r, id) => completeTable env id r) .start =
      .ok ((), p) ∧
    env.answers p.asked request.model = .ok (done ++ rest) ∧
    done.mapM (tableField env request) { p with asked := p.asked ++ [request.model] } =
      .ok (fields, q)

/-- At any moment the tables of the models before are finished, and no
others. -/
theorem Setting.Moment.length {done rest : List FieldDecl} {fields : List TableField}
    (h : env.Moment id request done rest fields q) : q.tables.length = id := by
  obtain ⟨p, hfirst, -, hfields⟩ := h.reached
  have hid : id < env.models.length := (List.getElem?_eq_some_iff.1 h.next).1
  have hcompleted : p.Completed env (env.models.take id).length := by
    refine Step.zipIdx_forM_ok (fun count q => q.Completed env count) ?_ .start hfirst
    intro i r q q' hr hq hstep
    rw [List.getElem?_take] at hr
    exact completeTable_ok (Option.ite_none_right_eq_some.1 hr).2 hq hstep
  have hstart : { p with asked := p.asked ++ [request.model] }.tables = p.tables := rfl
  have hsame : q.tables = p.tables := by
    refine Step.mapM_keeps (fun q => q.tables = p.tables) ?_ hstart hfields
    intro decl _ f q q' hq hf
    exact (tableField_ok hf).1.tables.trans hq
  rw [hsame, hcompleted.length, List.length_take]
  omega

/-- The finished tables of a run stand for its drafts. Before the first
model all drafts are empty. Whenever the fields of a model are resolved,
its draft can be filled in, and this gives the drafts of the next moment.
Whenever a field is resolved, a type that leads to a table leads to its
draft, which is filled in exactly if the table is finished, and with its
fields. After the last model all drafts can be read, and every foretold
key is of one of them. -/
structure Setting.KeepsDrafts (env : Setting) : Prop where
  start : ∀ id < env.models.length, (Progress.start.drafts env)[id]? = some none
  filled : ∀ id request decls fields q, env.Moment id request decls [] fields q →
    (q.drafts env).fill? id fields =
      some (Progress.drafts env { q with tables := q.tables ++ [request.toTable id fields] })
  read : ∀ id request done rest fields q, env.Moment id request done rest fields q →
    ∀ type target, findAssoc? env.lookup type = some target →
      (q.drafts env)[target]? = some ((q.tables[target]?).map (·.fields))
  finished : ∀ p, completeAll env .start = .ok ((), p) → ∀ id < env.models.length,
    ∃ t, p.tables[id]? = some t ∧ (p.drafts env).fields? id = some t.fields
  compared : ∀ p, completeAll env .start = .ok ((), p) → ∀ prediction ∈ p.predictions,
    prediction.table < env.models.length

/-- A run keeps its drafts, if its lookup leads to the models. -/
theorem Setting.keepsDrafts (h : Registers env.lookup env.models) : env.KeepsDrafts := by
  constructor
  case start =>
    intro id hid
    rw [Progress.getElem?_drafts hid]
    rfl
  case filled =>
    intro id request decls fields q hmoment
    have hid : id < env.models.length := (List.getElem?_eq_some_iff.1 hmoment.next).1
    exact Progress.fill?_drafts hid hmoment.length fields
  case read =>
    intro id request done rest fields q hmoment type target htarget
    obtain ⟨r, hr, -⟩ := (h type target).1 htarget
    exact Progress.getElem?_drafts (List.getElem?_eq_some_iff.1 hr).1
  case finished =>
    intro p hp id hid
    have hthere : id < p.tables.length := by
      rw [(completeAll_ok hp).length]
      exact hid
    refine ⟨p.tables[id], List.getElem?_eq_getElem hthere, ?_⟩
    unfold Drafts.fields?
    rw [Progress.getElem?_drafts hid, List.getElem?_eq_getElem hthere]
    rfl
  case compared =>
    intro p hp
    exact Step.zipIdx_forM_ok (fun _ q => q.ForetellsWithin env)
      (fun _ _ _ _ _ hq hstep => completeTable_foretellsWithin hq hstep) .start hp

end Rowsmith

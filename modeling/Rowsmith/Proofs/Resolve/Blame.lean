/-
Who is blamed when a request cannot be resolved. A run stops at its first
failure, and the failure that is reported records what was being processed
at this moment: a model, and a field of it if one was being resolved.

# Where a run stops

`Request.StopsAt` lists the places at which a run can stop, each with the
model and field that are to blame and what went wrong there. A place is
described by what was done before: which models were completed, which
fields of the next one were resolved (`Setting.Moment`), which foretold
keys were borne out. Nothing in it refers to what was recorded on the way,
so a name left over from an earlier step would not fit any place.

A foretold key is the one case in which the model to blame is not the one
that is reached last. It is compared when all tables are there, long after
the field was resolved that asked for it, and so every prediction has to
carry the names of that field and its model (`Setting.Foretold`).

Main result: a request fails exactly if its run stops somewhere, and then
with what went wrong there, unaltered, behind a single link that records
the model and field to blame (`resolve_eq_error_iff`).
-/
import Rowsmith.Proofs.Resolve.Drafts
import Rowsmith.Proofs.Resolve.Failing

namespace Rowsmith

section

variable {env : Setting} {p p' : Progress} {request : TableRequest} {id : TableId}

-- ========================================================= foretold keys

/-- A key was foretold for a field of a model: the names are those of the
model and of one of the fields it was described with, and this field names
the model of the table. -/
structure Setting.Foretold (env : Setting) (r : TableRequest) (f : FieldDecl)
    (prediction : Prediction) : Prop where
  model : r ∈ env.models ∧ prediction.model = r.modelName
  field : (∃ asked decls, env.answers asked r.model = .ok decls ∧ f ∈ decls) ∧
    prediction.field = f.name
  refers : ∃ entity, f.type.valueType.args.getLast? = some entity ∧
    findAssoc? env.lookup entity = some prediction.table

/-- Every key was foretold for some field. -/
def Progress.ForetoldAll (env : Setting) (p : Progress) : Prop :=
  ∀ prediction ∈ p.predictions, ∃ r f, env.Foretold r f prediction

theorem Progress.ForetoldAll.start : Progress.start.ForetoldAll env :=
  fun _ hprediction => nomatch hprediction

theorem resolveReference_foretoldAll {f : FieldDecl} {r : Reference} {asked : List TypeExpr}
    {decls : List FieldDecl} (hmodel : request ∈ env.models)
    (hdecls : env.answers asked request.model = .ok decls) (hf : f ∈ decls)
    (hp : p.ForetoldAll env) (h : resolveReference env request f p = .ok (r, p')) :
    p'.ForetoldAll env := by
  obtain ⟨hdeclared, key, hkey⟩ := resolveReference_eq_ok.1 h
  rcases referencedKey_eq_ok.1 hkey with
    ⟨_, _, -, -, -, -, rfl⟩ | ⟨-, _, _, _, -, -, -, -, -, rfl⟩
  · exact hp
  · intro prediction hprediction
    rcases List.mem_append.1 hprediction with hold | hnew
    · exact hp prediction hold
    · obtain rfl := List.mem_singleton.1 hnew
      obtain ⟨entity, hentity, htable, -⟩ := hdeclared.target
      exact ⟨request, f, ⟨hmodel, rfl⟩, ⟨⟨asked, decls, hdecls, hf⟩, rfl⟩, entity, hentity, htable⟩

theorem tableField_foretoldAll {decl : FieldDecl} {f : TableField} {asked : List TypeExpr}
    {decls : List FieldDecl} (hmodel : request ∈ env.models)
    (hdecls : env.answers asked request.model = .ok decls) (hdecl : decl ∈ decls)
    (hp : p.ForetoldAll env) (h : tableField env request decl p = .ok (f, p')) :
    p'.ForetoldAll env := by
  obtain ⟨x, hx, -⟩ := tableField_eq_ok.1 h
  obtain ⟨v, hv, hyields⟩ := resolveField_eq_ok.1 hx
  cases v with
  | settled y =>
      obtain ⟨-, rfl⟩ := hyields
      exact hp
  | reference request' =>
      obtain ⟨r, hr, -⟩ := hyields
      obtain rfl := Owner.model.inj (model_of_verdict?_reference hv)
      exact resolveReference_foretoldAll hmodel hdecls hdecl hp hr
  | nested type =>
      obtain ⟨s, hs, -⟩ := hyields
      unfold Progress.ForetoldAll
      rw [structureWithin_predictions hs]
      exact hp

theorem completeTable_foretoldAll (hmodel : request ∈ env.models) (hp : p.ForetoldAll env)
    (h : completeTable env id request p = .ok ((), p')) : p'.ForetoldAll env := by
  obtain ⟨decls, fields, q, hdecls, hfields, -, rfl⟩ := completeTable_eq_ok.1 h
  have hstart : Progress.ForetoldAll env { p with asked := p.asked ++ [request.model] } := hp
  have hq : q.ForetoldAll env := by
    refine Step.mapM_keeps (Progress.ForetoldAll env) ?_ hstart hfields
    intro decl hdecl f q q' hq hf
    exact tableField_foretoldAll hmodel hdecls hdecl hq hf
  exact hq

theorem completeAll_foretoldAll (h : completeAll env .start = .ok ((), p)) :
    p.ForetoldAll env :=
  Step.zipIdx_forM_ok (fun _ q => q.ForetoldAll env)
    (fun _ _ _ _ hr hq hstep => completeTable_foretoldAll (List.mem_of_getElem? hr) hq hstep)
    .start h

end

-- ======================================================= where runs stop

/-- What is said of a foretold key that the tables do not bear out. -/
def Prediction.refutation (tables : List Table) (prediction : Prediction) : String :=
  let actual := ((tables[prediction.table]?).bind Table.primaryKey?).map fun key =>
    (key.name, key.valueType)
  let found := match actual with
    | some (name, type) => "`" ++ name ++ ": " ++ type.print ++ "`"
    | none => "no primary key"
  "primary key of `" ++ ((tables[prediction.table]?).map Table.modelName).getD "" ++
    "` was derived as `" ++ prediction.key ++ ": " ++ prediction.type.print ++
    "` while resolving `" ++ prediction.model ++ "`, but the completed table has " ++ found

/-- The first models are completed. -/
def Setting.CompletedBefore (env : Setting) (id : TableId) (p : Progress) : Prop :=
  ((env.models.take id).zipIdx.forM fun (r, id) => completeTable env id r) .start = .ok ((), p)

/-- Where a run stops after the models are registered, with the model and
field to blame and what went wrong. -/
inductive Setting.StopsAt (env : Setting) (structures : List TypeExpr) :
    String → Option String → Failure → Prop
  -- The next model cannot be described.
  | undescribed {id : TableId} {request : TableRequest} {p : Progress} {cause : Failure}
      (next : env.models[id]? = some request) (before : env.CompletedBefore id p)
      (fails : env.answers p.asked request.model = .error cause) :
      StopsAt env structures request.modelName none cause
  -- A field of the next model cannot be resolved.
  | unresolved {id : TableId} {request : TableRequest} {done rest : List FieldDecl}
      {f : FieldDecl} {fields : List TableField} {q : Progress} {cause : Failure}
      (moment : env.Moment id request done (f :: rest) fields q)
      (fails : tableField env request f q = .error cause) :
      StopsAt env structures request.modelName (some f.name) cause
  -- All its fields are resolved, and the table does not pass the checks.
  | rejected {id : TableId} {request : TableRequest} {decls : List FieldDecl}
      {fields : List TableField} {q : Progress} {cause : Failure}
      (moment : env.Moment id request decls [] fields q)
      (fails : checkTable request fields q = .error cause) :
      StopsAt env structures request.modelName none cause
  -- All models are completed, and a foretold key is not borne out, the
  -- first one.
  | diverged {p : Progress} {before after : List Prediction} {prediction : Prediction}
      {request : TableRequest} {f : FieldDecl}
      (completed : completeAll env .start = .ok ((), p))
      (split : p.predictions = before ++ prediction :: after)
      (borneOut : ∀ earlier ∈ before, earlier.BorneOut p.tables)
      (foretold : env.Foretold request f prediction) (fails : ¬ prediction.BorneOut p.tables) :
      StopsAt env structures request.modelName (some f.name)
        (.structural (prediction.refutation p.tables))
  -- All keys are borne out, and a structure that was asked for cannot be
  -- resolved.
  | structured {p q : Progress} {before after : List TypeExpr} {type : TypeExpr} {cause : Failure}
      (completed : completeAll env .start = .ok ((), p))
      (borneOut : ∀ prediction ∈ p.predictions, prediction.BorneOut p.tables)
      (split : structures = before ++ type :: after)
      (resolved : resolveStructures env before p = .ok ((), q))
      (fails : structureOf env type q = .error cause) :
      StopsAt env structures type.name none cause

/-- Where the run of a request stops, with the model and field to blame and
what went wrong. -/
inductive Request.StopsAt (room : Nat)
    (answers : List TypeExpr → TypeExpr → Except Failure (List FieldDecl)) (locator : Locator)
    (request : Request) : String → Option String → Failure → Prop
  -- A model has a type of an earlier one.
  | clash {id : TableId} {r earlier : TableRequest} {key : TypeExpr}
      (taken : KeyClash request.models id r earlier key) :
      StopsAt room answers locator request r.modelName none
        (.structural (KeyClash.text r earlier key))
  | registered {lookup : List (TypeExpr × TableId)} {model : String} {field : Option String}
      {cause : Failure} (lookup_eq : registerAll request.models = .ok lookup)
      (stops : Setting.StopsAt ⟨answers, room, locator, request.models, lookup⟩
        request.structures model field cause) :
      StopsAt room answers locator request model field cause

section

variable {env : Setting} {p p' : Progress} {request : TableRequest} {id : TableId} {e : Failure}

/-- A foretold key that is not borne out is blamed on the field it was
foretold for. -/
theorem checkPrediction_eq_error {tables : List Table} {prediction : Prediction} :
    checkPrediction tables prediction p = .error e ↔ ¬ prediction.BorneOut tables ∧
      e = (Failure.structural (prediction.refutation tables)).whileProcessing prediction.model
        (some prediction.field) := by
  have htext : ∀ cause, checkPrediction tables prediction p = .error cause →
      cause = (Failure.structural (prediction.refutation tables)).whileProcessing
        prediction.model (some prediction.field) := by
    intro cause h
    obtain ⟨cause, hrequire, rfl⟩ := Step.located_eq_error.1 h
    rw [(Step.require_eq_error.1 hrequire).2]
    rfl
  cases h : checkPrediction tables prediction p with
  | ok r =>
      obtain ⟨hborne, -⟩ := checkPrediction_eq_ok.1 h
      constructor
      · intro h; cases h
      · intro ⟨hfails, _⟩; exact absurd hborne hfails
  | error cause =>
      have hfails : ¬ prediction.BorneOut tables := by
        intro hborne
        rw [(checkPrediction_eq_ok (u := ())).2 ⟨hborne, rfl⟩] at h
        cases h
      rw [Except.error.injEq, htext cause h]
      exact ⟨fun he => ⟨hfails, he.symm⟩, fun ⟨_, he⟩ => he.symm⟩

theorem Setting.ask_eq_error {type : TypeExpr} {cause : Failure} :
    env.ask type p = .error cause ↔ env.answers p.asked type = .error cause := by
  unfold Setting.ask
  rw [Step.get_bind]
  cases env.answers p.asked type with
  | error e' =>
      show Except.error e' = Except.error cause ↔ _
      rw [Except.error.injEq, Except.error.injEq]
  | ok fields =>
      constructor
      · intro h; cases h
      · intro h; cases h

/-- A model is not completed if it cannot be described, if one of its
fields cannot be resolved, or if its table does not pass the checks. -/
theorem completeTable_eq_error :
    completeTable env id request p = .error e ↔
      (∃ cause, env.answers p.asked request.model = .error cause ∧
        e = cause.whileProcessing request.modelName none) ∨
      (∃ done f rest fields q cause, env.answers p.asked request.model = .ok (done ++ f :: rest) ∧
        done.mapM (tableField env request) { p with asked := p.asked ++ [request.model] } =
          .ok (fields, q) ∧
        tableField env request f q = .error cause ∧
        e = cause.whileProcessing request.modelName (some f.name)) ∨
      ∃ decls fields q cause, env.answers p.asked request.model = .ok decls ∧
        decls.mapM (tableField env request) { p with asked := p.asked ++ [request.model] } =
          .ok (fields, q) ∧
        checkTable request fields q = .error cause ∧
        e = cause.whileProcessing request.modelName none := by
  have hmodify : ∀ (change : Progress → Progress) (q : Progress) (e : Failure),
      (modify change : Step Unit) q ≠ .error e := fun _ _ _ h => nomatch h
  unfold completeTable
  simp only [Step.bind_eq_error, Step.located_eq_error, Step.located_eq_ok, Setting.ask_eq_error,
    Setting.ask_eq_ok, Step.mapM_eq_error, Step.mapM_located_eq_ok]
  constructor
  · rintro (hasked | ⟨decls, q, ⟨hdecls, rfl⟩, hfield | ⟨fields, q', hfields, hcheck | hmod⟩⟩)
    · exact Or.inl hasked
    · obtain ⟨done, f, rest, fields, q', rfl, hdone, cause, hf, rfl⟩ := hfield
      exact Or.inr (Or.inl ⟨done, f, rest, fields, q', cause, hdecls, hdone, hf, rfl⟩)
    · obtain ⟨cause, hcheck, rfl⟩ := hcheck
      exact Or.inr (Or.inr ⟨decls, fields, q', cause, hdecls, hfields, hcheck, rfl⟩)
    · obtain ⟨_, q'', -, hmod⟩ := hmod
      exact absurd hmod (hmodify _ _ _)
  · rintro (hasked | ⟨done, f, rest, fields, q, cause, hdecls, hdone, hf, rfl⟩ |
      ⟨decls, fields, q, cause, hdecls, hfields, hcheck, rfl⟩)
    · exact Or.inl hasked
    · refine Or.inr ⟨done ++ f :: rest, _, ⟨hdecls, rfl⟩, Or.inl ?_⟩
      exact ⟨done, f, rest, fields, q, rfl, hdone, cause, hf, rfl⟩
    · refine Or.inr ⟨decls, _, ⟨hdecls, rfl⟩, Or.inr ⟨fields, q, hfields, Or.inl ?_⟩⟩
      exact ⟨cause, hcheck, rfl⟩

/-- The completion of the models stops at one of them. -/
theorem completeAll_stops {structures : List TypeExpr}
    (h : completeAll env .start = .error e) : ∃ model field cause,
      env.StopsAt structures model field cause ∧ e = cause.whileProcessing model field := by
  obtain ⟨id, request, p, hnext, hbefore, hstep⟩ := Step.zipIdx_forM_eq_error.1 h
  rcases completeTable_eq_error.1 hstep with ⟨cause, hfails, rfl⟩ |
    ⟨done, f, rest, fields, q, cause, hdecls, hdone, hfails, rfl⟩ |
    ⟨decls, fields, q, cause, hdecls, hfields, hfails, rfl⟩
  · exact ⟨_, _, cause, .undescribed hnext hbefore hfails, rfl⟩
  · exact ⟨_, _, cause, .unresolved ⟨hnext, p, hbefore, hdecls, hdone⟩ hfails, rfl⟩
  · have hall : env.answers p.asked request.model = .ok (decls ++ []) := by
      rw [List.append_nil]
      exact hdecls
    exact ⟨_, _, cause, .rejected ⟨hnext, p, hbefore, hall, hfields⟩ hfails, rfl⟩

theorem completeAll_fails (hnext : env.models[id]? = some request)
    (hbefore : env.CompletedBefore id p) (hstep : completeTable env id request p = .error e) :
    completeAll env .start = .error e :=
  Step.zipIdx_forM_eq_error.2 ⟨id, request, p, hnext, hbefore, hstep⟩

/-- The structures asked for on their own stop at the first that cannot be
resolved. -/
theorem resolveStructures_eq_error {types : List TypeExpr} :
    resolveStructures env types p = .error e ↔
      ∃ before type after q cause, types = before ++ type :: after ∧
        resolveStructures env before p = .ok ((), q) ∧
        structureOf env type q = .error cause ∧ e = cause.whileProcessing type.name none := by
  have hone : ∀ (type : TypeExpr) (q : Progress),
      (do let _ ← Step.located type.name none (structureOf env type) : Step Unit) q = .error e ↔
        ∃ cause, structureOf env type q = .error cause ∧
          e = cause.whileProcessing type.name none := by
    intro type q
    rw [Step.bind_eq_error, Step.located_eq_error]
    simp only [Step.pure_ne_error, and_false, exists_false, or_false]
  refine Step.forM_eq_error.trans ⟨?_, ?_⟩
  · intro ⟨before, type, after, q, hsplit, hbefore, hfails⟩
    obtain ⟨cause, hcause, he⟩ := (hone type q).1 hfails
    exact ⟨before, type, after, q, cause, hsplit, hbefore, hcause, he⟩
  · intro ⟨before, type, after, q, cause, hsplit, hbefore, hcause, he⟩
    exact ⟨before, type, after, q, hsplit, hbefore, (hone type q).2 ⟨cause, hcause, he⟩⟩

/-- The run after the registration fails exactly if it stops somewhere. -/
theorem resolveAll_eq_error_iff {structures : List TypeExpr} :
    resolveAll env structures .start = .error e ↔ ∃ model field cause,
      env.StopsAt structures model field cause ∧ e = cause.whileProcessing model field := by
  -- the three stages, each of which is reached if those before it succeed
  have hstages : resolveAll env structures .start = .error e ↔
      completeAll env .start = .error e ∨
      ∃ p, completeAll env .start = .ok ((), p) ∧
        (p.predictions.forM (checkPrediction p.tables) p = .error e ∨
          (∀ prediction ∈ p.predictions, prediction.BorneOut p.tables) ∧
            resolveStructures env structures p = .error e) := by
    show (completeAll env >>= fun _ => get >>= fun p =>
      p.predictions.forM (checkPrediction p.tables) >>= fun _ =>
        resolveStructures env structures) Progress.start = _ ↔ _
    rw [Step.bind_eq_error]
    refine or_congr_right ⟨?_, ?_⟩
    · intro ⟨_, p, hcomplete, h⟩
      rw [Step.get_bind] at h
      refine ⟨p, hcomplete, (Step.bind_eq_error.1 h).imp_right ?_⟩
      intro ⟨_, q, hchecked, hrest⟩
      obtain ⟨hborne, rfl⟩ := checkPredictions_eq_ok.1 hchecked
      exact ⟨hborne, hrest⟩
    · intro ⟨p, hcomplete, h⟩
      refine ⟨(), p, hcomplete, ?_⟩
      rw [Step.get_bind]
      refine Step.bind_eq_error.2 (h.imp_right ?_)
      intro ⟨hborne, hrest⟩
      exact ⟨(), p, checkPredictions_eq_ok.2 ⟨hborne, rfl⟩, hrest⟩
  rw [hstages]
  constructor
  · rintro (hcomplete | ⟨p, hcomplete, hchecks | ⟨hborne, hstructures⟩⟩)
    · exact completeAll_stops hcomplete
    · obtain ⟨before, prediction, after, q, hsplit, hbefore, hfails⟩ :=
        Step.forM_eq_error.1 hchecks
      obtain ⟨hborne, rfl⟩ := checkPredictions_eq_ok.1 hbefore
      obtain ⟨hnot, rfl⟩ := checkPrediction_eq_error.1 hfails
      have hmem : prediction ∈ q.predictions := by
        rw [hsplit]
        exact List.mem_append_right _ List.mem_cons_self
      obtain ⟨r, f, hforetold⟩ := completeAll_foretoldAll hcomplete prediction hmem
      refine ⟨_, _, _, .diverged hcomplete hsplit hborne hforetold hnot, ?_⟩
      rw [hforetold.model.2, hforetold.field.2]
    · obtain ⟨before, type, after, q, cause, hsplit, hbefore, hfails, rfl⟩ :=
        resolveStructures_eq_error.1 hstructures
      exact ⟨_, _, cause, .structured hcomplete hborne hsplit hbefore hfails, rfl⟩
  · intro ⟨model, field, cause, hstops, he⟩
    cases hstops with
    | @undescribed id request p _ next before fails =>
        refine Or.inl (completeAll_fails next before (completeTable_eq_error.2 ?_))
        exact Or.inl ⟨cause, fails, he⟩
    | @unresolved id request done rest f fields q _ moment fails =>
        obtain ⟨p, hbefore, hdecls, hdone⟩ := moment.reached
        refine Or.inl (completeAll_fails moment.next hbefore (completeTable_eq_error.2 ?_))
        exact Or.inr (Or.inl ⟨done, f, rest, fields, q, cause, hdecls, hdone, fails, he⟩)
    | @rejected id request decls fields q _ moment fails =>
        obtain ⟨p, hbefore, hdecls, hfields⟩ := moment.reached
        rw [List.append_nil] at hdecls
        refine Or.inl (completeAll_fails moment.next hbefore (completeTable_eq_error.2 ?_))
        exact Or.inr (Or.inr ⟨decls, fields, q, cause, hdecls, hfields, fails, he⟩)
    | @diverged p before after prediction request f completed split borneOut foretold fails =>
        refine Or.inr ⟨p, completed, Or.inl (Step.forM_eq_error.2 ?_)⟩
        refine ⟨before, prediction, after, p, split, checkPredictions_eq_ok.2 ⟨borneOut, rfl⟩, ?_⟩
        rw [he, ← foretold.model.2, ← foretold.field.2]
        exact checkPrediction_eq_error.2 ⟨fails, rfl⟩
    | @structured p q before after type _ completed borneOut split resolved fails =>
        refine Or.inr ⟨p, completed, Or.inr ⟨borneOut, resolveStructures_eq_error.2 ?_⟩⟩
        exact ⟨before, type, after, q, cause, split, resolved, fails, he⟩

/-- Wherever a run stops after the registration, what went wrong is a plain
failure if the answers failed plainly. -/
theorem Setting.StopsAt.plain {structures : List TypeExpr} {model : String}
    {field : Option String} {cause : Failure} (h : env.StopsAt structures model field cause)
    (hanswers : env.AnswersPlainly) : cause.Plain := by
  cases h with
  | undescribed next before fails => exact hanswers _ _ _ fails
  | unresolved moment fails => exact tableField_plain hanswers _ _ _ _ fails
  | rejected moment fails => exact checkTable_plain _ _ _ _ fails
  | diverged => exact Failure.plain_structural _
  | structured completed borneOut split resolved fails =>
      exact structureOf_plain hanswers _ _ _ fails

end

-- ============================================================== requests

section

variable {room : Nat} {answers : List TypeExpr → TypeExpr → Except Failure (List FieldDecl)}
  {locator : Locator} {request : Request} {e : Failure}

/-- A request fails exactly if its run stops somewhere. -/
theorem resolveWithin_eq_error_iff :
    resolveWithin room answers locator request = .error e ↔ ∃ model field cause,
      request.StopsAt room answers locator model field cause ∧
        e = cause.whileProcessing model field := by
  unfold resolveWithin
  cases hlookup : registerAll request.models with
  | error e' =>
      show Except.error e' = Except.error e ↔ _
      rw [Except.error.injEq]
      obtain ⟨id, r, earlier, key, hclash, he'⟩ := registerAll_eq_error_iff.1 hlookup
      constructor
      · intro he
        exact ⟨_, _, _, .clash hclash, he ▸ he'⟩
      · rintro ⟨model, field, cause, hstops, he⟩
        cases hstops with
        | @clash id' r' earlier' key' taken =>
            -- the models stop at one clash only
            have hagain := registerAll_eq_error_iff.2 ⟨id', r', earlier', key', taken, he⟩
            exact Except.error.inj (hlookup.symm.trans hagain)
        | registered lookup_eq stops =>
            rw [hlookup] at lookup_eq
            cases lookup_eq
  | ok lookup =>
      have hrun : Except.bind (resolveAll ⟨answers, room, locator, request.models, lookup⟩
            request.structures .start) (fun r => .ok (⟨r.2.tables, r.2.structures, lookup⟩ : Schema)) =
            .error e ↔
          resolveAll ⟨answers, room, locator, request.models, lookup⟩ request.structures .start =
            .error e := by
        cases resolveAll ⟨answers, room, locator, request.models, lookup⟩ request.structures
            .start with
        | error e' => simp only [Except.bind, Except.error.injEq]
        | ok r =>
            constructor
            · intro h; cases h
            · intro h; cases h
      refine hrun.trans (resolveAll_eq_error_iff.trans ?_)
      constructor
      · rintro ⟨model, field, cause, hstops, he⟩
        exact ⟨model, field, cause, .registered hlookup hstops, he⟩
      · rintro ⟨model, field, cause, hstops, he⟩
        cases hstops with
        | @clash id r earlier key taken =>
            have hfails := registerAll_eq_error_iff.2 ⟨id, r, earlier, key, taken, rfl⟩
            rw [hlookup] at hfails
            cases hfails
        | @registered lookup' _ _ _ lookup_eq stops =>
            obtain rfl := Except.ok.inj (hlookup.symm.trans lookup_eq)
            exact ⟨model, field, cause, stops, he⟩

/-- Wherever the run of a request stops, what went wrong is a plain failure
if the answers failed plainly. -/
theorem Request.StopsAt.plain {model : String} {field : Option String} {cause : Failure}
    (h : request.StopsAt room answers locator model field cause)
    (hanswers : ∀ asked type e, answers asked type = .error e → e.Plain) : cause.Plain := by
  cases h with
  | clash taken => exact Failure.plain_structural _
  | registered lookup_eq stops => exact stops.plain hanswers

end

/-- A catalog fails to describe a type by saying that it cannot. -/
theorem Catalog.describe_plain {c : Catalog} {type : TypeExpr} {e : Failure}
    (h : c.describe type = .error e) : e.Plain := by
  unfold Catalog.describe at h
  split at h
  · obtain rfl := Except.error.inj h
    exact Failure.plain_introspection _ _
  · split at h
    · cases h
    · obtain rfl := Except.error.inj h
      exact Failure.plain_introspection _ _

theorem Catalog.scriptedDescriber_plain {c : Catalog} {script : Script} {asked : List TypeExpr}
    {type : TypeExpr} {e : Failure}
    (h : (c.scriptedDescriber script).fields asked type = .error e) : e.Plain := by
  unfold Catalog.scriptedDescriber at h
  dsimp only at h
  cases hscript : findAssoc? script type with
  | some answers =>
      rw [hscript] at h
      cases h
  | none =>
      rw [hscript] at h
      exact c.describe_plain h

end Rowsmith

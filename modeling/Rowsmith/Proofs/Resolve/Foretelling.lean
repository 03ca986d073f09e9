/-
What is foretold comes true.

A model may refer to another whose turn has not come yet. The key that the
reference is compared with is then read off the declared fields of the other
model, long before these are resolved, and the run goes on as if the table
were there. When all tables are completed it compares what it took for granted
with what came of it.

# Why it cannot fail

Which declared field is the key depends on the field and the model alone, and
so does the type of its values (`find?_primaryKey_eq`); how the other fields
are stored has no part in it. If the describer answers a question alike each
time, the fields that were read early are the ones that are resolved later.
So the tables of a run always have the keys that their models declare, and
so have those that were foretold (`completeAll_faithful`): the comparison is
never where a run ends (`predictions_come_true`).
-/
import Rowsmith.Proofs.Resolve.Steady

namespace Rowsmith

/-- After a step that succeeded, a run goes on from where the step left it. -/
theorem Step.bind_of_ok {α β : Type} {step : Step α} {next : α → Step β} {a : α} {p q : Progress}
    (h : step p = .ok (a, q)) : (step >>= next) p = next a q := by
  show (step p >>= fun (a, q) => next a q) = next a q
  rw [h]
  rfl

section

variable {describe : TypeExpr → Except Failure (List FieldDecl)} {room : Nat} {locator : Locator}
  {request : Request} {lookup : List (TypeExpr × TableId)} {p : Progress} {id : TableId}

/-- When all models are completed, the table of a model has the key that the
model declares. -/
theorem key?_eq_declaredKey?
    (h : completeAll (request.setting describe room locator lookup) .start = .ok ((), p))
    {model : TableRequest} (hmodel : request.models[id]? = some model) :
    ∃ t decls, p.tables[id]? = some t ∧ describe model.model = .ok decls ∧
      t.key? = (decls.find? (isPrimaryKey model)).map fun key =>
        (key.name, key.type.valueType) := by
  have hcompleted := completeAll_ok h
  have hlength := (List.getElem?_eq_some_iff.1 hmodel).1
  have hthere : id < p.tables.length := by
    rw [hcompleted.length]
    exact hlength
  have ht := List.getElem?_eq_getElem hthere
  obtain ⟨model', hmodel', hresolved⟩ := hcompleted.tables id _ ht
  obtain rfl := Option.some.inj (hmodel.symm.trans hmodel')
  obtain ⟨decls, ⟨_, hdecls⟩, hfields⟩ := hresolved.fields
  exact ⟨_, decls, ht, hdecls, find?_primaryKey_eq hfields⟩

/-- Where there is nothing to refute, a run goes on from the completed models
to the structures that were asked for. -/
theorem resolveAll_eq_of_borneOut {env : Setting} (types : List TypeExpr)
    (h : completeAll env .start = .ok ((), p))
    (hborne : ∀ prediction ∈ p.predictions, prediction.BorneOut p.tables) :
    resolveAll env types .start = resolveStructures env types p := by
  have hcheck : p.predictions.forM (checkPrediction p.tables) p = .ok ((), p) :=
    checkPredictions_eq_ok.2 ⟨hborne, rfl⟩
  show (completeAll env >>= fun _ => _) _ = _
  rw [Step.bind_of_ok h, Step.get_bind, Step.bind_of_ok hcheck]
  rfl

/-- Foretold keys come true. If the describer answers alike each time, and the
models were registered and completed, then every table has the key that its
model declares, by name and by the type of its values. The comparison of what
was foretold succeeds at whatever point it is made, and leaves all as it is.
So a run that has come this far can only fail at a structure that was asked
for. -/
theorem predictions_come_true (hlookup : registerAll request.models = .ok lookup)
    (h : completeAll (request.setting describe room locator lookup) .start = .ok ((), p)) :
    (∀ (id : TableId) (model : TableRequest), request.models[id]? = some model →
      ∃ t decls, p.tables[id]? = some t ∧ describe model.model = .ok decls ∧
        t.primaryKey?.map (fun key => (key.name, key.valueType)) =
          (decls.find? (isPrimaryKey model)).map fun key => (key.name, key.type.valueType)) ∧
    (∀ q, p.predictions.forM (checkPrediction p.tables) q = .ok ((), q)) ∧
    resolveWithin room (fun _ => describe) locator request =
      (resolveStructures (request.setting describe room locator lookup) request.structures p).map
        fun (_, q) => ⟨q.tables, q.structures, lookup⟩ := by
  have hfaithful : p.Faithful (request.setting describe room locator lookup) describe
      request.structures := completeAll_faithful (fun _ _ => rfl) h
  have hborne : ∀ prediction ∈ p.predictions, prediction.BorneOut p.tables :=
    fun prediction hprediction => hfaithful.borneOut (completeAll_ok h) hprediction
  refine ⟨fun id model hmodel => key?_eq_declaredKey? h hmodel,
    fun q => checkPredictions_eq_ok.2 ⟨hborne, rfl⟩, ?_⟩
  have hrun := resolveAll_eq_of_borneOut request.structures h hborne
  unfold resolveWithin
  rw [hlookup]
  show (resolveAll (request.setting describe room locator lookup) request.structures .start >>=
    fun (_, q) => pure (Schema.mk q.tables q.structures lookup)) = _
  rw [hrun]
  cases resolveStructures (request.setting describe room locator lookup) request.structures p with
  | error e => rfl
  | ok _ => rfl

end

/-- A person with a pet, which belongs to a person. -/
def petCatalog : Catalog where
  decls := [
    ⟨.named "Person", [.plain "id" (.named "i32"),
      .plain "pet" (.generic "ForeignObj" [.named "String", .named "Pet"])], true, none, none, [],
      none⟩,
    ⟨.named "Pet", [.plain "pet_id" (.named "String"),
      .plain "owner" (.generic "ForeignInt" [.named "Person"])], true, none, none, [], none⟩]
  unsupported := []

def petRequest : Request := ⟨petCatalog.models.map (·.toRequest), []⟩

/-- The key of the pet is foretold for the person, and comes true. -/
theorem predictions_come_true_pet :
    ∃ lookup p, registerAll petRequest.models = .ok lookup ∧
      completeAll (petRequest.setting petCatalog.describe 2 Registry.empty.locator lookup) .start =
        .ok ((), p) ∧
      p.predictions.map (fun prediction => (prediction.key, prediction.type)) =
        [("pet_id", .named "String")] ∧
      p.predictions.forM (checkPrediction p.tables) p = .ok ((), p) := by
  have hfound : ((registerAll petRequest.models).toOption.bind fun lookup =>
      (completeAll (petRequest.setting petCatalog.describe 2 Registry.empty.locator lookup)
        .start).toOption.filter fun (_, p) =>
          p.predictions.map (fun prediction => (prediction.key, prediction.type)) ==
            [("pet_id", .named "String")]).isSome = true := by
    decide +kernel
  obtain ⟨⟨_, p⟩, hfound⟩ := Option.isSome_iff_exists.1 hfound
  obtain ⟨lookup, hlookup, hfilter⟩ := Option.bind_eq_some_iff.1 hfound
  obtain ⟨hcomplete, hforetold⟩ := Option.filter_eq_some_iff.1 hfilter
  have hlookup := Attempt.toOption_eq_some.1 hlookup
  have hcomplete := Attempt.toOption_eq_some.1 hcomplete
  obtain ⟨-, hchecked, -⟩ := predictions_come_true hlookup hcomplete
  exact ⟨lookup, p, hlookup, hcomplete, eq_of_beq hforetold, hchecked p⟩

end Rowsmith

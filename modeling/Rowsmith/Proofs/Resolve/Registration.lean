/-
Registration: every model is found by the types it is known by, and by no
other.

A request can be registered when no type is shared by two of its models.
The condition does not mention positions, so it holds of every order of
the models (`registerAll_succeeds_iff`); and where it holds, the lookup
leads from a type to the position of the model that has it
(`registers_of_registerAll`). Where it does not hold, the failure names the
first model that has a type of an earlier one (`registerAll_eq_error_iff`).
-/
import Rowsmith.Proofs.Attempt
import Rowsmith.Schema.Resolve

namespace Rowsmith

/-- A lookup leads from every type that a model is known by to the
position of the model, and knows no other types. -/
def Registers (lookup : List (TypeExpr × TableId)) (models : List TableRequest) : Prop :=
  ∀ key id, findAssoc? lookup key = some id ↔ ∃ r, models[id]? = some r ∧ key ∈ r.lookupKeys

/-- No type is shared by two models. -/
def KeysDisjoint (models : List TableRequest) : Prop :=
  models.Pairwise fun a b => a.lookupKeys.Disjoint b.lookupKeys

/-- The types of a model all lead to its position; what other types lead
to is not changed. -/
theorem findAssoc?_foldl_putAssoc (keys : List TypeExpr) (lookup : List (TypeExpr × TableId))
    (id : TableId) (key : TypeExpr) :
    findAssoc? (keys.foldl (fun lookup key => putAssoc lookup key id) lookup) key =
      if key ∈ keys then some id else findAssoc? lookup key := by
  induction keys generalizing lookup with
  | nil => simp
  | cons k keys ih =>
      rw [List.foldl_cons, ih, findAssoc?_putAssoc]
      by_cases hkey : key ∈ keys
      · simp [hkey]
      · by_cases hk : k = key
        · simp [hk]
        · simp [hk, hkey, Ne.symm hk]

theorem register_eq_ok {models : List TableRequest} {lookup lookup' : List (TypeExpr × TableId)}
    {id : TableId} {r : TableRequest} :
    register models lookup id r = .ok lookup' ↔
      (∀ key ∈ r.lookupKeys, findAssoc? lookup key = none) ∧
        lookup' = r.lookupKeys.foldl (fun lookup key => putAssoc lookup key id) lookup := by
  unfold register
  rw [Attempt.bind_eq_ok]
  constructor
  · intro h
    obtain ⟨u, hchecks, h⟩ := h
    refine ⟨fun key hkey => ?_, (Attempt.pure_eq_ok.1 h).symm⟩
    -- a taken type would have failed its check
    have hcheck := Attempt.forM_eq_ok_iff.1 hchecks key hkey
    cases hfound : findAssoc? lookup key with
    | none => rfl
    | some taken =>
        rw [hfound] at hcheck
        cases hcheck
  · intro h
    obtain ⟨hfree, rfl⟩ := h
    refine ⟨(), Attempt.forM_eq_ok_iff.2 fun key hkey => ?_, rfl⟩
    rw [hfree key hkey]
    rfl

theorem Registers.register {done : List TableRequest} {lookup lookup' : List (TypeExpr × TableId)}
    {models : List TableRequest} {r : TableRequest} (h : Registers lookup done)
    (hr : Rowsmith.register models lookup done.length r = .ok lookup') :
    Registers lookup' (done ++ [r]) := by
  obtain ⟨hfresh, rfl⟩ := register_eq_ok.1 hr
  intro key id
  rw [findAssoc?_foldl_putAssoc]
  by_cases hkey : key ∈ r.lookupKeys
  · rw [if_pos hkey, Option.some_inj]
    constructor
    · rintro rfl
      exact ⟨r, by simp, hkey⟩
    · rintro ⟨r', hr', hkey'⟩
      rcases Nat.lt_or_ge id done.length with hid | hid
      · -- an earlier model has the type, which would then be taken
        rw [List.getElem?_append_left hid] at hr'
        have := (h key id).2 ⟨r', hr', hkey'⟩
        rw [hfresh key hkey] at this
        cases this
      · rcases Nat.lt_or_ge done.length id with hid' | hid'
        · rw [List.getElem?_eq_none (by simp; omega)] at hr'
          cases hr'
        · exact Nat.le_antisymm hid hid'
  · rw [if_neg hkey, h key id]
    constructor
    · rintro ⟨r', hr', hkey'⟩
      have hid : id < done.length := (List.getElem?_eq_some_iff.1 hr').1
      exact ⟨r', by rw [List.getElem?_append_left hid]; exact hr', hkey'⟩
    · rintro ⟨r', hr', hkey'⟩
      -- the new model does not have the type, so it is found as before
      rcases Nat.lt_or_ge id done.length with hid | hid
      · rw [List.getElem?_append_left hid] at hr'
        exact ⟨r', hr', hkey'⟩
      · rw [List.getElem?_append_right hid, List.getElem?_singleton] at hr'
        split at hr'
        · obtain rfl := Option.some.inj hr'
          exact absurd hkey' hkey
        · cases hr'

/-- A type leads nowhere exactly when no registered model has it. -/
theorem Registers.find?_eq_none_iff {done : List TableRequest}
    {lookup : List (TypeExpr × TableId)} (h : Registers lookup done) {key : TypeExpr} :
    findAssoc? lookup key = none ↔ ∀ r ∈ done, key ∉ r.lookupKeys := by
  rw [Option.eq_none_iff_forall_ne_some]
  constructor
  · intro hnone r hr hkey
    obtain ⟨id, hid⟩ := List.mem_iff_getElem?.1 hr
    exact hnone id ((h key id).2 ⟨r, hid, hkey⟩)
  · intro hall id hid
    obtain ⟨r, hr, hkey⟩ := (h key id).1 hid
    exact hall r (List.mem_of_getElem? hr) hkey

-- ============================================================ all models

/-- One registration after another, as the run does them. -/
private def registerNext (models : List TableRequest) (lookup : List (TypeExpr × TableId)) :
    TableRequest × TableId → Except Failure (List (TypeExpr × TableId))
  | (r, id) =>
    match register models lookup id r with
    | .ok lookup => .ok lookup
    | .error e => .error (e.whileProcessing r.modelName none)

/-- Registering the models that are left, after those that are done. -/
private theorem registerNext_foldlM {models done : List TableRequest} (rest : List TableRequest)
    {lookup : List (TypeExpr × TableId)} (h : Registers lookup done) (hdone : KeysDisjoint done) :
    (∀ lookup', (rest.zipIdx done.length).foldlM (registerNext models) lookup = .ok lookup' →
      Registers lookup' (done ++ rest) ∧ KeysDisjoint (done ++ rest)) ∧
    (KeysDisjoint (done ++ rest) →
      ∃ lookup', (rest.zipIdx done.length).foldlM (registerNext models) lookup = .ok lookup') := by
  induction rest generalizing done lookup with
  | nil =>
      rw [List.append_nil]
      refine ⟨fun lookup' hok => ?_, fun _ => ⟨lookup, rfl⟩⟩
      obtain rfl := Except.ok.inj hok
      exact ⟨h, hdone⟩
  | cons r rest ih =>
      -- the next model goes in exactly if it shares no type with those that are done
      have hnext : (∃ lookup', register models lookup done.length r = .ok lookup') ↔
          KeysDisjoint (done ++ [r]) := by
        unfold KeysDisjoint
        rw [List.pairwise_append]
        constructor
        · rintro ⟨lookup', hr⟩
          obtain ⟨hfree, -⟩ := register_eq_ok.1 hr
          refine ⟨hdone, List.pairwise_singleton .., fun a ha b hb key hkeya hkeyb => ?_⟩
          obtain rfl := List.mem_singleton.1 hb
          exact (h.find?_eq_none_iff.1 (hfree key hkeyb)) a ha hkeya
        · rintro ⟨-, -, hdisjoint⟩
          refine ⟨_, register_eq_ok.2 ⟨fun key hkey => ?_, rfl⟩⟩
          refine h.find?_eq_none_iff.2 fun a ha hkeya => ?_
          exact hdisjoint a ha r (List.mem_singleton_self r) hkeya hkey
      have happend : done ++ r :: rest = (done ++ [r]) ++ rest := by simp
      rw [List.zipIdx_cons, List.foldlM_cons, happend]
      cases hr : register models lookup done.length r with
      | error e =>
          have hfail : ¬ KeysDisjoint (done ++ [r]) := fun hkeys => by
            obtain ⟨lookup', hok⟩ := hnext.2 hkeys
            rw [hr] at hok
            cases hok
          simp only [registerNext, hr]
          refine ⟨fun lookup' hok => (by cases hok), fun hkeys => absurd ?_ hfail⟩
          exact (List.pairwise_append.1 hkeys).1
      | ok lookup₁ =>
          have hkeys₁ := hnext.1 ⟨lookup₁, hr⟩
          have := ih (h.register hr) hkeys₁
          rw [List.length_append, List.length_singleton] at this
          simp only [registerNext, hr]
          exact this

private theorem registers_nil : Registers [] [] := by
  intro key id
  simp [findAssoc?]

private theorem registerAll_eq (models : List TableRequest) :
    registerAll models = (models.zipIdx).foldlM (registerNext models) [] := rfl

/-- After the registration every type that a model is known by leads to
its position, and no other type leads anywhere. -/
theorem registers_of_registerAll {models : List TableRequest} {lookup : List (TypeExpr × TableId)}
    (h : registerAll models = .ok lookup) : Registers lookup models :=
  ((registerNext_foldlM models registers_nil List.Pairwise.nil).1 lookup
    (registerAll_eq models ▸ h)).1

/-- The models can be registered exactly if no two share a type. -/
theorem registerAll_succeeds_iff {models : List TableRequest} :
    (∃ lookup, registerAll models = .ok lookup) ↔ KeysDisjoint models := by
  rw [registerAll_eq]
  have := @registerNext_foldlM models [] models [] registers_nil List.Pairwise.nil
  exact ⟨fun ⟨lookup, h⟩ => (this.1 lookup h).2, this.2⟩

/-- The model at a position has a type in common with an earlier one: it is
the first of its types of which that is so, and the first position. -/
structure KeyClash (models : List TableRequest) (id : TableId) (r earlier : TableRequest)
    (key : TypeExpr) : Prop where
  next : models[id]? = some r
  before : KeysDisjoint (models.take id)
  taken : earlier ∈ models.take id ∧ key ∈ earlier.lookupKeys
  first : ∃ mine theirs, r.lookupKeys = mine ++ key :: theirs ∧
    ∀ k ∈ mine, ∀ m ∈ models.take id, k ∉ m.lookupKeys

/-- What is said of a model that has a type of an earlier one. -/
def KeyClash.text (r earlier : TableRequest) (key : TypeExpr) : String :=
  "duplicate model registered under key `" ++ key.print ++ "`: `" ++ earlier.model.print ++
    "` and `" ++ r.model.print ++ "`"

/-- The check that a type is not taken, as registering a model does it. -/
private def checkKey (models : List TableRequest) (lookup : List (TypeExpr × TableId))
    (r : TableRequest) (key : TypeExpr) : Except Failure Unit :=
  match findAssoc? lookup key with
  | none => pure ()
  | some taken =>
    throw (.structural ("duplicate model registered under key `" ++ key.print ++ "`: `" ++
      ((models[taken]?).map fun m => m.model.print).getD "" ++ "` and `" ++ r.model.print ++ "`"))

private theorem checkKey_eq_ok {models : List TableRequest} {lookup : List (TypeExpr × TableId)}
    {r : TableRequest} {key : TypeExpr} :
    checkKey models lookup r key = .ok () ↔ findAssoc? lookup key = none := by
  unfold checkKey
  cases findAssoc? lookup key with
  | none => exact ⟨fun _ => rfl, fun _ => rfl⟩
  | some taken =>
      constructor
      · intro h; cases h
      · intro h; cases h

/-- A type is refused if an earlier model has it. -/
private theorem checkKey_eq_error {models : List TableRequest} {lookup : List (TypeExpr × TableId)}
    {id : TableId} {r : TableRequest} {key : TypeExpr} {cause : Failure}
    (h : Registers lookup (models.take id)) :
    checkKey models lookup r key = .error cause ↔
      ∃ earlier, (earlier ∈ models.take id ∧ key ∈ earlier.lookupKeys) ∧
        cause = .structural (KeyClash.text r earlier key) := by
  -- what a type leads to is the model at that position
  have hrefused : ∀ (taken : TableId) (earlier : TableRequest),
      findAssoc? lookup key = some taken → (models.take id)[taken]? = some earlier →
      (checkKey models lookup r key = .error cause ↔
        cause = .structural (KeyClash.text r earlier key)) := by
    intro taken earlier htaken hearlier
    rw [List.getElem?_take] at hearlier
    unfold checkKey
    rw [htaken]
    dsimp only
    rw [(Option.ite_none_right_eq_some.1 hearlier).2]
    show Except.error _ = Except.error cause ↔ _
    rw [Except.error.injEq]
    exact eq_comm
  constructor
  · intro hfails
    cases htaken : findAssoc? lookup key with
    | none =>
        rw [checkKey_eq_ok.2 htaken] at hfails
        cases hfails
    | some taken =>
        obtain ⟨earlier, hearlier, hkey⟩ := (h key taken).1 htaken
        exact ⟨earlier, ⟨List.mem_of_getElem? hearlier, hkey⟩,
          (hrefused taken earlier htaken hearlier).1 hfails⟩
  · intro ⟨earlier, ⟨hmem, hkey⟩, hcause⟩
    obtain ⟨taken, hearlier⟩ := List.mem_iff_getElem?.1 hmem
    exact (hrefused taken earlier ((h key taken).2 ⟨earlier, hearlier, hkey⟩) hearlier).2 hcause

/-- The types of a model are checked in order, and the first that an earlier
model has is reported. -/
theorem register_eq_error {models : List TableRequest} {lookup : List (TypeExpr × TableId)}
    {id : TableId} {r : TableRequest} {cause : Failure} (h : Registers lookup (models.take id)) :
    register models lookup id r = .error cause ↔
      ∃ earlier key, (earlier ∈ models.take id ∧ key ∈ earlier.lookupKeys) ∧
        (∃ mine theirs, r.lookupKeys = mine ++ key :: theirs ∧
          ∀ k ∈ mine, ∀ m ∈ models.take id, k ∉ m.lookupKeys) ∧
        cause = .structural (KeyClash.text r earlier key) := by
  have hchecks : register models lookup id r = .error cause ↔
      r.lookupKeys.forM (checkKey models lookup r) = .error cause := by
    show Except.bind (r.lookupKeys.forM (checkKey models lookup r)) _ = _ ↔ _
    cases r.lookupKeys.forM (checkKey models lookup r) with
    | error e => simp only [Except.bind, Except.error.injEq]
    | ok u =>
        constructor
        · intro h; cases h
        · intro h; cases h
  rw [hchecks, Attempt.forM_eq_error_iff]
  simp only [checkKey_eq_error h, checkKey_eq_ok, h.find?_eq_none_iff]
  constructor
  · intro ⟨mine, key, theirs, hsplit, hmine, earlier, htaken, hcause⟩
    exact ⟨earlier, key, htaken, ⟨mine, theirs, hsplit, hmine⟩, hcause⟩
  · intro ⟨earlier, key, htaken, ⟨mine, theirs, hsplit, hmine⟩, hcause⟩
    exact ⟨mine, key, theirs, hsplit, hmine, earlier, htaken, hcause⟩

/-- If the models cannot be registered, the failure names the later of two
that share a type. -/
theorem registerAll_eq_error_iff {models : List TableRequest} {e : Failure} :
    registerAll models = .error e ↔
      ∃ id r earlier key, KeyClash models id r earlier key ∧
        e = (Failure.structural (KeyClash.text r earlier key)).whileProcessing r.modelName
          none := by
  -- the models before the one that fails are registered, and then no two of them clash
  have hdone := fun id =>
    @registerNext_foldlM models [] (models.take id) [] registers_nil List.Pairwise.nil
  have hnext : ∀ lookup r id e', registerNext models lookup (r, id) = .error e' ↔
      ∃ cause, register models lookup id r = .error cause ∧
        e' = cause.whileProcessing r.modelName none := by
    intro lookup r id e'
    unfold registerNext
    cases hr : register models lookup id r with
    | ok lookup' => simp [hr]
    | error cause => simp [hr, eq_comm]
  rw [registerAll_eq, Attempt.foldlM_eq_error_iff]
  constructor
  · intro ⟨before, ⟨r, id⟩, after, lookup, hsplit, hbefore, hr⟩
    obtain ⟨hr', rfl⟩ := Attempt.zipIdx_cut_iff.1 ⟨after, hsplit⟩
    obtain ⟨hregisters, hkeys⟩ := (hdone id).1 lookup hbefore
    obtain ⟨cause, hcause, he⟩ := (hnext ..).1 hr
    obtain ⟨earlier, key, htaken, hfirst, rfl⟩ := (register_eq_error hregisters).1 hcause
    exact ⟨id, r, earlier, key, ⟨hr', hkeys, htaken, hfirst⟩, he⟩
  · intro ⟨id, r, earlier, key, hclash, he⟩
    obtain ⟨after, hsplit⟩ := Attempt.zipIdx_cut_iff.2 ⟨hclash.next, rfl⟩
    obtain ⟨lookup, hbefore⟩ := (hdone id).2 hclash.before
    obtain ⟨hregisters, -⟩ := (hdone id).1 lookup hbefore
    refine ⟨_, (r, id), after, lookup, hsplit, hbefore, (hnext ..).2 ⟨_, ?_, he⟩⟩
    exact (register_eq_error hregisters).2 ⟨earlier, key, hclash.taken, hclash.first, rfl⟩

theorem KeysDisjoint.perm {models models' : List TableRequest} (h : models.Perm models') :
    KeysDisjoint models ↔ KeysDisjoint models' :=
  h.pairwise_iff fun hdisjoint => by
    intro key hb ha
    exact hdisjoint ha hb

theorem KeysDisjoint.nodup {models : List TableRequest} (h : KeysDisjoint models) :
    models.Nodup :=
  List.Pairwise.imp (fun hdisjoint heq => by
    subst heq
    exact hdisjoint (List.mem_cons_self ..) (List.mem_cons_self ..)) h

end Rowsmith

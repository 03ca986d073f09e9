/-
What each part of a run can do. For every step of the resolver there is
one statement that says exactly when it succeeds, with which value and
which progress; whatever is proved about runs is derived from these, and
no other proof opens a step.

# Verdicts

How a field is stored is decided by its declaration and the locator alone
up to two cases, which need the progress: a reference, for which the key
of another table is needed, and a nested structure, which is resolved
once in a run. `verdict?` is the part that is decided, and
`resolveField_eq_ok` says that a field is resolved by its verdict. That
the decided part looks at nothing else is why the order of a request has
no bearing on it.
-/
import Rowsmith.Proofs.Resolve.Step

namespace Rowsmith

variable {env : Setting} {p p' : Progress}

-- ============================================================ questions

/-- A type is described by the answer to the question, which is recorded. -/
theorem Setting.ask_eq_ok {type : TypeExpr} {fields : List FieldDecl} :
    env.ask type p = .ok (fields, p') ↔
      env.answers p.asked type = .ok fields ∧ p' = { p with asked := p.asked ++ [type] } := by
  unfold Setting.ask
  rw [Step.get_bind]
  cases env.answers p.asked type with
  | error e =>
      constructor
      · intro h; cases h
      · rintro ⟨h, -⟩; cases h
  | ok answer =>
      show Except.ok (answer, _) = Except.ok (fields, p') ↔ _
      rw [Except.ok.injEq, Except.ok.injEq, Prod.mk.injEq]
      exact and_congr_right fun _ => eq_comm

-- =========================================================== references

/-- The type of the key that a reference declares: the one its wrapper
fixes, or else its first argument. -/
def ReferenceShape.keyType (shape : ReferenceShape) (args : List TypeExpr) (entity : TypeExpr) :
    TypeExpr :=
  match shape.fixedKey? with
  | some key => .named key
  | none => args.headD entity

/-- A reference says what the type of its field says: the wrapper, the
position of the model that the last argument is a type of, the declared
type of the key, and how values of that type are stored as they are. -/
structure Reference.DeclaredBy (r : Reference) (env : Setting) (f : FieldDecl) : Prop where
  shape : ReferenceShape.ofName? f.type.valueType.name = some r.shape
  arity : f.type.valueType.args.length = r.shape.arity
  target : ∃ entity, f.type.valueType.args.getLast? = some entity ∧
    findAssoc? env.lookup entity = some r.table ∧
    r.keyType = r.shape.keyType f.type.valueType.args entity
  storage : Storage.ofNative? r.keyType = some r.key

/-- A reference resolves to what its type declares if the referenced
table has a key of the declared type. -/
theorem resolveReference_eq_ok {request : TableRequest} {f : FieldDecl} {r : Reference} :
    resolveReference env request f p = .ok (r, p') ↔
      r.DeclaredBy env f ∧
        ∃ key, referencedKey env request f r.table p = .ok (some (key, r.keyType), p') := by
  unfold resolveReference
  dsimp only
  constructor
  · intro h
    -- the guards in the order in which they are checked, each failure ending
    -- the run
    cases hshape : ReferenceShape.ofName? f.type.valueType.name with
    | none => rw [hshape] at h; exact absurd h Step.reject_ne_ok
    | some shape =>
      rw [hshape] at h
      obtain ⟨_, q, hrequire, h₁⟩ := Step.bind_eq_ok.1 h
      obtain ⟨harity, rfl⟩ := Step.require_eq_ok.1 hrequire
      cases hentity : f.type.valueType.args.getLast? with
      | none => rw [hentity] at h₁; exact absurd h₁ Step.reject_ne_ok
      | some entity =>
        rw [hentity] at h₁
        dsimp only at h₁
        cases hid : findAssoc? env.lookup entity with
        | none => rw [hid] at h₁; exact absurd h₁ Step.reject_ne_ok
        | some id =>
          rw [hid] at h₁
          -- of all the guards this one alone may move the run on
          obtain ⟨found, q', hkey, h₂⟩ := Step.bind_eq_ok.1 h₁
          cases found with
          | none => exact absurd h₂ Step.reject_ne_ok
          | some found =>
            obtain ⟨key, actual⟩ := found
            obtain ⟨_, q'', hmatch, h₃⟩ := Step.bind_eq_ok.1 h₂
            obtain ⟨hsame, rfl⟩ := Step.require_eq_ok.1 hmatch
            cases hstorage : Storage.ofNative? actual with
            | none => rw [hstorage] at h₃; exact absurd h₃ Step.reject_ne_ok
            | some storage =>
              rw [hstorage] at h₃
              obtain ⟨rfl, rfl⟩ := Step.pure_eq_ok.1 h₃
              have hactual := eq_of_beq hsame
              exact ⟨⟨hshape, eq_of_beq harity, ⟨entity, hentity, hid, rfl⟩, hactual ▸ hstorage⟩,
                key, hactual ▸ hkey⟩
  · rintro ⟨⟨hshape, harity, ⟨entity, hentity, hid, hkeyType⟩, hstorage⟩, key, hkey⟩
    rw [hshape]
    refine Step.bind_eq_ok.2 ⟨(), p, Step.require_eq_ok.2 ⟨by simpa using harity, rfl⟩, ?_⟩
    rw [hentity]
    dsimp only
    rw [hid]
    refine Step.bind_eq_ok.2 ⟨_, p', hkey, ?_⟩
    refine Step.bind_eq_ok.2 ⟨(), p', Step.require_eq_ok.2 ⟨?_, rfl⟩, ?_⟩
    · rw [hkeyType]
      exact beq_self_eq_true _
    · rw [hstorage]
      refine Step.pure_eq_ok.2 ⟨?_, rfl⟩
      cases r
      simp only [Reference.mk.injEq, true_and, and_true]
      exact hkeyType

/-- The key of a referenced table is the one the table has, if it is
resolved, and otherwise the one its model declares, which is then
foretold. -/
theorem referencedKey_eq_ok {request : TableRequest} {f : FieldDecl} {id : TableId}
    {key : String} {type : TypeExpr} :
    referencedKey env request f id p = .ok (some (key, type), p') ↔
      (∃ t k, p.tables[id]? = some t ∧ t.primaryKey? = some k ∧ k.name = key ∧
        k.valueType = type ∧ p' = p) ∨
      (p.tables[id]? = none ∧ ∃ m fields k, env.models[id]? = some m ∧
        env.answers p.asked m.model = .ok fields ∧ fields.find? (isPrimaryKey m) = some k ∧
        k.name = key ∧ k.type.valueType = type ∧
        p' = { p with
          asked := p.asked ++ [m.model]
          predictions := p.predictions ++ [{
            model := request.modelName
            field := f.name
            table := id
            key := key
            type := type }] }) := by
  unfold referencedKey
  rw [Step.get_bind]
  constructor
  · intro h
    -- a table that is resolved, against one that is still to come
    cases ht : p.tables[id]? with
    | some t =>
      rw [ht] at h
      obtain ⟨hfound, rfl⟩ := Step.pure_eq_ok.1 h
      obtain ⟨k, hk, hkey⟩ := Option.map_eq_some_iff.1 hfound.symm
      obtain ⟨rfl, rfl⟩ := Prod.mk.inj hkey
      exact Or.inl ⟨t, k, rfl, hk, rfl, rfl, rfl⟩
    | none =>
      rw [ht] at h
      dsimp only at h
      cases hm : env.models[id]? with
      | none => rw [hm] at h; cases (Step.pure_eq_ok.1 h).1
      | some m =>
        rw [hm] at h
        obtain ⟨fields, q, hask, h₁⟩ := Step.bind_eq_ok.1 h
        obtain ⟨hfields, rfl⟩ := Setting.ask_eq_ok.1 hask
        cases hk : fields.find? (isPrimaryKey m) with
        | none => rw [hk] at h₁; cases (Step.pure_eq_ok.1 h₁).1
        | some k =>
          rw [hk] at h₁
          obtain ⟨_, q, hmod, h₂⟩ := Step.bind_eq_ok.1 h₁
          obtain rfl := Step.modify_eq_ok.1 hmod
          obtain ⟨hkey, rfl⟩ := Step.pure_eq_ok.1 h₂
          obtain ⟨rfl, rfl⟩ := Prod.mk.inj (Option.some.inj hkey)
          exact Or.inr ⟨rfl, m, fields, k, rfl, hfields, hk, rfl, rfl, rfl⟩
  · rintro (⟨t, k, ht, hk, rfl, rfl, rfl⟩ | ⟨ht, m, fields, k, hm, hfields, hk, rfl, rfl, rfl⟩)
    · rw [ht]
      exact Step.pure_eq_ok.2 ⟨by rw [hk]; rfl, rfl⟩
    · rw [ht]
      dsimp only
      rw [hm]
      refine Step.bind_eq_ok.2 ⟨fields, _, Setting.ask_eq_ok.2 ⟨hfields, rfl⟩, ?_⟩
      rw [hk]
      exact Step.bind_eq_ok.2 ⟨(), _, Step.modify_eq_ok.2 rfl, Step.pure_eq_ok.2 ⟨rfl, rfl⟩⟩

-- ======================================================= classification

/-- How a field is stored, as far as its declaration and the locator
decide it. -/
inductive Verdict
  -- Decided.
  | settled (resolved : Resolved)
  -- As a reference held by a model.
  | reference (request : TableRequest)
  -- As the nested structure of a type.
  | nested (type : TypeExpr)

/-- What the declaration of a field and the locator decide, unless they
rule the field out. -/
def verdict? (locator : Locator) (owner : Owner) (f : FieldDecl) : Option Verdict :=
  if isReferenceType f.type.valueType then
    match owner with
    | .model request => some (.reference request)
    | .structured _ => none
  else if !(!f.nullable || f.type.isOption) then none
  else
    match locator.mapper? f.type.valueType with
    | some mapper => some (.settled (.mapped (.provided mapper.path mapper.storage)))
    | none =>
      match Storage.ofNative? f.type.valueType with
      | some storage => some (.settled (.native storage))
      | none =>
        match f.inline with
        | some (.provided path storage) => some (.settled (.mapped (.provided path storage)))
        | some (.ordinal variants) =>
          if variants.isEmpty then none
          else some (.settled (.mapped (.ordinal f.type.valueType variants)))
        | none =>
          match locator.adapter? f.type.valueType with
          | some adapter =>
            if adapter.columns.isEmpty then none else some (.settled (.adapted adapter))
          | none =>
            if (unnestable? f.type.valueType).isSome then none
            else some (.nested f.type.valueType)

/-- Why a verdict is given, in the order in which the reasons are tried:
the field has the type of a reference, a mapper is located for its type,
the type is stored as it is, a conversion is written on the field, an
adapter is located, or the type can be nested. -/
inductive Verdict.FoundBy (locator : Locator) (f : FieldDecl) : Verdict → Prop
  | reference {request : TableRequest} (wrapper : isReferenceType f.type.valueType = true) :
      FoundBy locator f (.reference request)
  | mapper {mapper : ProvidedMapper} (found : locator.mapper? f.type.valueType = some mapper) :
      FoundBy locator f (.settled (.mapped (.provided mapper.path mapper.storage)))
  | native {storage : Storage} (free : locator.mapper? f.type.valueType = none)
      (stored : Storage.ofNative? f.type.valueType = some storage) :
      FoundBy locator f (.settled (.native storage))
  | inline {conversion : Conversion} (foreign : Storage.ofNative? f.type.valueType = none) :
      FoundBy locator f (.settled (.mapped conversion))
  | adapter {adapter : ProvidedAdapter} (foreign : Storage.ofNative? f.type.valueType = none)
      (found : locator.adapter? f.type.valueType = some adapter) (columns : adapter.columns ≠ []) :
      FoundBy locator f (.settled (.adapted adapter))
  | nested (foreign : Storage.ofNative? f.type.valueType = none) :
      FoundBy locator f (.nested f.type.valueType)

theorem foundBy_of_verdict? {locator : Locator} {owner : Owner} {f : FieldDecl} {v : Verdict}
    (h : verdict? locator owner f = some v) : v.FoundBy locator f := by
  unfold verdict? at h
  by_cases href : isReferenceType f.type.valueType = true
  · rw [if_pos href] at h
    cases owner with
    | model request =>
      cases h
      exact .reference href
    | structured type => cases h
  rw [if_neg href] at h
  by_cases hnull : (!(!f.nullable || f.type.isOption)) = true
  · rw [if_pos hnull] at h
    cases h
  rw [if_neg hnull] at h
  cases hmapper : locator.mapper? f.type.valueType with
  | some mapper =>
    rw [hmapper] at h
    cases h
    exact .mapper hmapper
  | none =>
    rw [hmapper] at h
    cases hnative : Storage.ofNative? f.type.valueType with
    | some storage =>
      rw [hnative] at h
      cases h
      exact .native hmapper hnative
    | none =>
      rw [hnative] at h
      cases hinline : f.inline with
      | some inline =>
        rw [hinline] at h
        cases inline with
        | provided path storage =>
          cases h
          exact .inline hnative
        | ordinal variants =>
          dsimp only at h
          split at h
          · cases h
          · cases h
            exact .inline hnative
      | none =>
        rw [hinline] at h
        cases hadapter : locator.adapter? f.type.valueType with
        | some adapter =>
          rw [hadapter] at h
          dsimp only at h
          split at h
          case isTrue => cases h
          case isFalse hcolumns =>
            cases h
            exact .adapter hnative hadapter (by simpa using hcolumns)
        | none =>
          rw [hadapter] at h
          dsimp only at h
          split at h
          · cases h
          · cases h
            exact .nested hnative

/-- References are held by models alone, each by the one that declares
it. -/
theorem model_of_verdict?_reference {locator : Locator} {owner : Owner} {f : FieldDecl}
    {request : TableRequest} (h : verdict? locator owner f = some (.reference request)) :
    owner = .model request := by
  cases foundBy_of_verdict? h with
  | reference wrapper =>
    unfold verdict? at h
    rw [if_pos wrapper] at h
    cases owner with
    | model request' =>
      cases h
      rfl
    | structured type => cases h

/-- A field is resolved to `x` as a verdict on it says. -/
def Verdict.Yields (env : Setting) (nest : TypeExpr → Step Structure) (f : FieldDecl)
    (p : Progress) (x : Resolved) (p' : Progress) : Verdict → Prop
  | .settled y => x = y ∧ p' = p
  | .reference request => ∃ r, resolveReference env request f p = .ok (r, p') ∧ x = .reference r
  | .nested type => ∃ s, nest type p = .ok (s, p') ∧ x = .nested s

/-- A conversion written on a field is taken as it is, except that an
enumeration has variants. -/
theorem inlineConversion_eq_ok {owner : Owner} {f : FieldDecl} {inline : InlineConversion}
    {c : Conversion} :
    inlineConversion owner f inline p = .ok (c, p') ↔ p' = p ∧
      match inline with
      | .provided path storage => c = .provided path storage
      | .ordinal variants => variants.isEmpty = false ∧ c = .ordinal f.type.valueType variants := by
  cases inline with
  | provided path storage =>
      show (pure _ : Step Conversion) p = _ ↔ _
      rw [Step.pure_eq_ok]
      exact and_comm
  | ordinal variants =>
      refine Step.require_pure_eq_ok.trans ?_
      simp only [Bool.not_eq_true']
      exact ⟨fun ⟨hvariants, hc, hp⟩ => ⟨hp, hvariants, hc⟩,
        fun ⟨hp, hvariants, hc⟩ => ⟨hvariants, hc, hp⟩⟩

/-- A field is resolved exactly as the verdict on it says. -/
theorem resolveField_eq_ok {nest : TypeExpr → Step Structure} {owner : Owner} {f : FieldDecl}
    {x : Resolved} :
    resolveField env nest owner f p = .ok (x, p') ↔
      ∃ v, verdict? env.locator owner f = some v ∧ v.Yields env nest f p x p' := by
  unfold resolveField verdict?
  dsimp only
  by_cases href : isReferenceType f.type.valueType = true
  · rw [if_pos href, if_pos href]
    cases owner with
    | structured type => simp [Step.reject_ne_ok]
    | model request =>
        simp only [Option.some.injEq, exists_eq_left', Verdict.Yields, Step.bind_eq_ok,
          Step.pure_eq_ok]
        constructor
        · rintro ⟨r, q, hr, rfl, rfl⟩
          exact ⟨r, hr, rfl⟩
        · rintro ⟨r, hr, rfl⟩
          exact ⟨r, p', hr, rfl, rfl⟩
  -- from here on the two sides try the same reasons in the same order
  rw [if_neg href, if_neg href, Step.bind_eq_ok]
  by_cases hnull : (!f.nullable || f.type.isOption) = true
  case neg =>
    rw [if_pos (by simpa using hnull)]
    simp [Step.require_eq_ok, hnull]
  rw [if_neg (by rw [hnull]; decide)]
  simp only [Step.require_eq_ok, hnull, true_and, exists_const, exists_eq_left]
  cases env.locator.mapper? f.type.valueType with
  | some mapper => simp [Verdict.Yields, Step.pure_eq_ok]
  | none =>
    dsimp only
    cases Storage.ofNative? f.type.valueType with
    | some storage => simp [Verdict.Yields, Step.pure_eq_ok]
    | none =>
      dsimp only
      cases f.inline with
      | some inline =>
        dsimp only
        rw [Step.bind_eq_ok]
        cases inline with
        | provided path storage =>
          simp [Verdict.Yields, Step.pure_eq_ok, inlineConversion_eq_ok, and_comm]
        | ordinal variants =>
          cases h : variants.isEmpty <;>
            simp [Verdict.Yields, Step.pure_eq_ok, inlineConversion_eq_ok, h, and_comm]
      | none =>
        dsimp only
        cases env.locator.adapter? f.type.valueType with
        | some adapter =>
          dsimp only
          rw [Step.bind_eq_ok]
          cases adapter.columns.isEmpty <;>
            simp [Verdict.Yields, Step.pure_eq_ok, Step.require_eq_ok]
        | none =>
          dsimp only
          cases unnestable? f.type.valueType with
          | some reason => simp [Step.bind_eq_ok, Step.reject_ne_ok]
          | none =>
            simp only [Step.bind_eq_ok, Step.pure_eq_ok, Verdict.Yields, Option.isSome_none,
              Bool.false_eq_true, if_false, Option.some.injEq, exists_eq_left']
            constructor
            · rintro ⟨s, q, hs, rfl, rfl⟩
              exact ⟨s, hs, rfl⟩
            · rintro ⟨s, hs, rfl⟩
              exact ⟨s, p', hs, rfl, rfl⟩

-- ==================================================== nested structures

/-- The part of a structure for a field resolved to `x`, if there may be
one. -/
def partFor? (f : FieldDecl) : Resolved → Option Part
  | .reference _ => none
  | .native storage => some (.native ⟨f.name, f.storageName, f.type⟩ storage)
  | .mapped conversion => some (.mapped ⟨f.name, f.storageName, f.type⟩ conversion)
  | .adapted adapter =>
    if f.type.isOption then none else some (.adapted ⟨f.name, f.storageName, f.type⟩ adapter)
  | .nested s =>
    if f.type.isOption then none
    else some (.nested ⟨f.name, f.storageName, f.type⟩ s.type s.parts)

theorem partOf_eq_ok {type : TypeExpr} {f : FieldDecl} {x : Resolved} {part : Part} :
    partOf type f x p = .ok (part, p') ↔ partFor? f x = some part ∧ p' = p := by
  cases x with
  | reference r => simp [partOf, partFor?, Step.reject_ne_ok]
  | native storage =>
      exact Step.pure_eq_ok.trans (and_congr_left' (eq_comm.trans Option.some_inj.symm))
  | mapped conversion =>
      exact Step.pure_eq_ok.trans (and_congr_left' (eq_comm.trans Option.some_inj.symm))
  | adapted adapter =>
      refine Step.require_pure_eq_ok.trans ?_
      cases h : f.type.isOption <;> simp [partFor?, h, eq_comm]
  | nested s =>
      refine Step.require_pure_eq_ok.trans ?_
      cases h : f.type.isOption <;> simp [partFor?, h, eq_comm]

/-- Resolves one part of the structure of a type: a field and then its
part. -/
def resolvePart (env : Setting) (nest : TypeExpr → Step Structure) (type : TypeExpr)
    (f : FieldDecl) : Step Part := do
  partOf type f (← resolveField env nest (.structured type) f)

/-- A part is what the verdict on its field yields. -/
theorem resolvePart_eq_ok {nest : TypeExpr → Step Structure} {type : TypeExpr} {f : FieldDecl}
    {part : Part} :
    resolvePart env nest type f p = .ok (part, p') ↔
      ∃ v x, verdict? env.locator (.structured type) f = some v ∧ v.Yields env nest f p x p' ∧
        partFor? f x = some part := by
  unfold resolvePart
  rw [Step.bind_eq_ok]
  constructor
  · rintro ⟨x, q, hx, h⟩
    obtain ⟨hpart, rfl⟩ := partOf_eq_ok.1 h
    obtain ⟨v, hv, hyields⟩ := resolveField_eq_ok.1 hx
    exact ⟨v, x, hv, hyields, hpart⟩
  · rintro ⟨v, x, hv, hyields, hpart⟩
    exact ⟨x, p', resolveField_eq_ok.2 ⟨v, hv, hyields⟩, partOf_eq_ok.2 ⟨hpart, rfl⟩⟩

/-- The structure resolved earlier in the run for a type, if there is
one. -/
def Progress.known? (p : Progress) (type : TypeExpr) : Option Structure :=
  p.structures.find? fun s => s.type = type

/-- A structure that is known is given as it is. One that is not is made
of the parts of its fields, with room for one structure less, and is
known from then on. -/
theorem structureWithin_eq_ok {room : Nat} {enclosing : List TypeExpr} {type : TypeExpr}
    {s : Structure} :
    structureWithin env room enclosing type p = .ok (s, p') ↔
      (p.known? type = some s ∧ p' = p) ∨
      (p.known? type = none ∧ type ∉ enclosing ∧
        ∃ room' fields parts q, room = room' + 1 ∧ env.answers p.asked type = .ok fields ∧
          fields ≠ [] ∧
          fields.mapM (resolvePart env (structureWithin env room' (type :: enclosing)) type)
            { p with asked := p.asked ++ [type] } = .ok (parts, q) ∧
          s = ⟨type, parts⟩ ∧ p' = { q with structures := q.structures ++ [s] }) := by
  unfold structureWithin Progress.known?
  rw [Step.get_bind]
  cases p.structures.find? fun s => s.type = type with
  | some known =>
    dsimp only
    rw [Step.pure_eq_ok]
    simp [eq_comm]
  | none =>
    dsimp only
    simp only [reduceCtorEq, false_and, false_or, true_and]
    constructor
    · intro h
      obtain ⟨_, q, hrequire, h₁⟩ := Step.bind_eq_ok.1 h
      obtain ⟨hfresh, rfl⟩ := Step.require_eq_ok.1 hrequire
      obtain ⟨fields, q, hask, h₂⟩ := Step.bind_eq_ok.1 h₁
      obtain ⟨hfields, rfl⟩ := Setting.ask_eq_ok.1 hask
      obtain ⟨_, q, hrequire', h₃⟩ := Step.bind_eq_ok.1 h₂
      obtain ⟨hsome, rfl⟩ := Step.require_eq_ok.1 hrequire'
      cases room with
      -- the room is looked at last, after all that can fail for better reasons
      | zero => exact absurd h₃ Step.reject_ne_ok
      | succ room =>
        obtain ⟨parts, q, hparts, h₄⟩ := Step.bind_eq_ok.1 h₃
        obtain ⟨_, q', hmodify, h₅⟩ := Step.bind_eq_ok.1 h₄
        obtain rfl := Step.modify_eq_ok.1 hmodify
        obtain ⟨rfl, rfl⟩ := Step.pure_eq_ok.1 h₅
        exact ⟨by simpa using hfresh, room, fields, parts, q, rfl, hfields, by simpa using hsome,
          hparts, rfl, rfl⟩
    · rintro ⟨hfresh, room', fields, parts, q, rfl, hfields, hsome, hparts, rfl, rfl⟩
      refine Step.bind_eq_ok.2 ⟨(), p, Step.require_eq_ok.2 ⟨by simpa using hfresh, rfl⟩, ?_⟩
      refine Step.bind_eq_ok.2 ⟨fields, _, Setting.ask_eq_ok.2 ⟨hfields, rfl⟩, ?_⟩
      refine Step.bind_eq_ok.2 ⟨(), _, Step.require_eq_ok.2 ⟨by simpa using hsome, rfl⟩, ?_⟩
      refine Step.bind_eq_ok.2 ⟨parts, q, hparts, ?_⟩
      exact Step.bind_eq_ok.2 ⟨(), _, Step.modify_eq_ok.2 rfl, Step.pure_eq_ok.2 ⟨rfl, rfl⟩⟩

-- =============================================================== tables

/-- A field of a table is what its declaration, resolved to `x`, makes of
it. An optional structure has a column that is always set, and defaults
come one for each column. -/
structure TableField.Resolves (request : TableRequest) (f : FieldDecl) (x : Resolved)
    (field : TableField) : Prop where
  eq : field = {
    name := f.name
    type := f.type
    columns := (placeField f x).1
    primaryKey := isPrimaryKey request f
    unique := f.unique
    nullable := f.nullable || f.type.isOption
    defaults := f.defaults
    kind := (placeField f x).2 }
  required : ∀ s, x = .nested s → (!f.type.isOption || s.hasRequiredColumn) = true
  defaults : (f.defaults.isEmpty || f.defaults.length == (placeField f x).1.length) = true

/-- A field of a model is resolved and takes its place in the table. -/
theorem tableField_eq_ok {request : TableRequest} {f : FieldDecl} {field : TableField} :
    tableField env request f p = .ok (field, p') ↔
      ∃ x, resolveField env (structureOf env) (.model request) f p = .ok (x, p') ∧
        field.Resolves request f x := by
  unfold tableField
  rw [Step.bind_eq_ok]
  constructor
  · rintro ⟨x, q, hx, h⟩
    cases x with
    | nested s =>
        obtain ⟨_, q', hrequire, h₁⟩ := Step.bind_eq_ok.1 h
        obtain ⟨hrequired, rfl⟩ := Step.require_eq_ok.1 hrequire
        obtain ⟨hdefaults, rfl, rfl⟩ := Step.require_pure_eq_ok.1 h₁
        exact ⟨_, hx, rfl, fun s' hs => Resolved.nested.inj hs ▸ hrequired, hdefaults⟩
    | _ =>
        obtain ⟨hdefaults, rfl, rfl⟩ := Step.require_pure_eq_ok.1 h
        exact ⟨_, hx, rfl, (fun s' hs => nomatch hs), hdefaults⟩
  · rintro ⟨x, hx, rfl, hrequired, hdefaults⟩
    refine ⟨x, p', hx, ?_⟩
    cases x with
    | nested s =>
        refine Step.bind_eq_ok.2 ⟨(), p', Step.require_eq_ok.2 ⟨hrequired s rfl, rfl⟩, ?_⟩
        exact Step.require_pure_eq_ok.2 ⟨hdefaults, rfl, rfl⟩
    | _ => exact Step.require_pure_eq_ok.2 ⟨hdefaults, rfl, rfl⟩

/-- What is demanded of the fields of a table: there are some, at most
one of them is the primary key, and that one has one column and is not
nullable, no two columns share a name, and a bridge names references. -/
structure TableChecked (request : TableRequest) (fields : List TableField) : Prop where
  nonempty : fields ≠ []
  key : fields.filter (·.primaryKey) = [] ∨
    ∃ key, fields.filter (·.primaryKey) = [key] ∧ key.columnCount = 1 ∧ key.nullable = false
  columns : ((fields.flatMap (·.columns)).map (·.name)).Nodup
  bridge : ∀ b, request.bridge = some b → ∀ name ∈ [b.left, b.right],
    ∃ f, fields.find? (fun f => f.name == name) = some f ∧ f.isReference = true

theorem checkPrimaryKey_eq_ok {request : TableRequest} {fields : List TableField} {u : Unit} :
    checkPrimaryKey request fields p = .ok (u, p') ↔
      (fields.filter (·.primaryKey) = [] ∨
        ∃ key, fields.filter (·.primaryKey) = [key] ∧ key.columnCount = 1 ∧
          key.nullable = false) ∧ p' = p := by
  unfold checkPrimaryKey
  generalize fields.filter (·.primaryKey) = keys
  match keys with
  | [] => simp [Step.pure_eq_ok]
  | [key] =>
      simp only [Step.bind_eq_ok, Step.require_eq_ok]
      constructor
      · rintro ⟨_, q, ⟨hcount, rfl⟩, hnull, rfl⟩
        exact ⟨Or.inr ⟨key, rfl, eq_of_beq hcount, by simpa using hnull⟩, rfl⟩
      · rintro ⟨h | ⟨key', hkey, hcount, hnull⟩, rfl⟩
        · cases h
        · obtain rfl := List.singleton_inj.1 hkey
          exact ⟨(), p', ⟨by rw [hcount]; rfl, rfl⟩, by rw [hnull]; rfl, rfl⟩
  | key :: other :: rest => simp [Step.reject_ne_ok]

/-- No two columns clash exactly when the names still to come are
distinct and none was seen before. -/
theorem clash?_eq_none_iff {seen columns : List (String × String)} :
    clash? seen columns = none ↔
      (columns.map (·.1)).Nodup ∧ ∀ c ∈ columns.map (·.1), c ∉ seen.map (·.1) := by
  induction columns generalizing seen with
  | nil => simp [clash?]
  | cons c columns ih =>
      obtain ⟨column, owner⟩ := c
      unfold clash?
      cases hfind : seen.find? fun s => s.1 = column with
      | some s =>
          have hs : s.1 = column := by simpa using List.find?_some hfind
          have hseen : column ∈ seen.map (·.1) :=
            List.mem_map.2 ⟨s, List.mem_of_find?_eq_some hfind, hs⟩
          simp only [reduceCtorEq, false_iff, not_and]
          exact fun _ h => h column (by simp) hseen
      | none =>
          have hseen : column ∉ seen.map (·.1) := by
            rw [List.mem_map]
            rintro ⟨s, hs, rfl⟩
            exact absurd (List.find?_eq_none.1 hfind s hs) (by simp)
          simp only [ih, List.map_cons, List.nodup_cons, List.mem_cons, forall_eq_or_imp, not_or]
          constructor
          · rintro ⟨hnodup, hfresh⟩
            exact ⟨⟨fun h => (hfresh column h).1 rfl, hnodup⟩, hseen, fun c hc => (hfresh c hc).2⟩
          · rintro ⟨⟨hcolumn, hnodup⟩, -, hfresh⟩
            exact ⟨hnodup, fun c hc => ⟨fun h => hcolumn (h ▸ hc), hfresh c hc⟩⟩

theorem checkColumns_eq_ok {fields : List TableField} {u : Unit} :
    checkColumns fields p = .ok (u, p') ↔
      ((fields.flatMap (·.columns)).map (·.name)).Nodup ∧ p' = p := by
  have hnames : (ownedColumns fields).map (·.1) = (fields.flatMap (·.columns)).map (·.name) := by
    simp [ownedColumns, List.map_flatMap, Function.comp_def]
  have hclash : clash? [] (ownedColumns fields) = none ↔
      ((fields.flatMap (·.columns)).map (·.name)).Nodup := by
    rw [clash?_eq_none_iff, hnames]
    simp
  rw [← hclash]
  unfold checkColumns
  cases clash? [] (ownedColumns fields) with
  | none => simp [Step.pure_eq_ok]
  | some c => simp [Step.reject_ne_ok]

/-- The field that a bridge names is a reference. -/
def checkBridgeField (request : TableRequest) (fields : List TableField) (name : String) :
    Step Unit :=
  match fields.find? fun f => f.name == name with
  | some f =>
    Step.require f.isReference
      ("bridge field `" ++ name ++ "` of `" ++ request.modelName ++ "` must be a foreign key")
  | none =>
    Step.reject ("bridge field `" ++ name ++ "` is not declared by `" ++ request.modelName ++ "`")

theorem checkBridgeField_eq_ok {request : TableRequest} {fields : List TableField} {name : String}
    {u : Unit} :
    checkBridgeField request fields name p = .ok (u, p') ↔
      (∃ f, fields.find? (fun f => f.name == name) = some f ∧ f.isReference = true) ∧
        p' = p := by
  unfold checkBridgeField
  cases fields.find? fun f => f.name == name with
  | some f => simp [Step.require_eq_ok]
  | none => simp [Step.reject_ne_ok]

theorem checkBridge_eq_ok {request : TableRequest} {fields : List TableField} {u : Unit} :
    checkBridge request fields p = .ok (u, p') ↔
      (∀ b, request.bridge = some b → ∀ name ∈ [b.left, b.right],
        ∃ f, fields.find? (fun f => f.name == name) = some f ∧ f.isReference = true) ∧
        p' = p := by
  unfold checkBridge
  cases request.bridge with
  | none => simp [Step.pure_eq_ok]
  | some b =>
      show [b.left, b.right].forM (checkBridgeField request fields) p = _ ↔ _
      simp only [Step.forM_cons_eq_ok, checkBridgeField_eq_ok]
      constructor
      · intro h
        obtain ⟨q, ⟨hl, rfl⟩, q', ⟨hr, rfl⟩, h⟩ := h
        obtain ⟨-, rfl⟩ := Step.pure_eq_ok.1 h
        refine ⟨fun b' hb name hname => ?_, rfl⟩
        cases hb
        rcases List.mem_pair.1 hname with rfl | rfl
        · exact hl
        · exact hr
      · intro h
        obtain ⟨h, rfl⟩ := h
        exact ⟨p', ⟨h b rfl b.left (by simp), rfl⟩, p', ⟨h b rfl b.right (by simp), rfl⟩,
          Step.pure_eq_ok.2 ⟨rfl, rfl⟩⟩

theorem checkTable_eq_ok {request : TableRequest} {fields : List TableField} {u : Unit} :
    checkTable request fields p = .ok (u, p') ↔ TableChecked request fields ∧ p' = p := by
  unfold checkTable
  simp only [Step.bind_eq_ok, Step.require_eq_ok, checkPrimaryKey_eq_ok, checkColumns_eq_ok,
    checkBridge_eq_ok]
  constructor
  · rintro ⟨_, q, ⟨hnonempty, rfl⟩, _, q, ⟨hkey, rfl⟩, _, q, ⟨hcolumns, rfl⟩, hbridge, rfl⟩
    exact ⟨⟨by simpa using hnonempty, hkey, hcolumns, hbridge⟩, rfl⟩
  · rintro ⟨⟨hnonempty, hkey, hcolumns, hbridge⟩, rfl⟩
    exact ⟨(), p', ⟨by simpa using hnonempty, rfl⟩, (), p', ⟨hkey, rfl⟩, (), p', ⟨hcolumns, rfl⟩,
      hbridge, rfl⟩

-- ================================================================= runs

/-- The table that the model at a position becomes. -/
def TableRequest.toTable (request : TableRequest) (id : TableId) (fields : List TableField) :
    Table where
  id := id
  name := request.table
  accessor := request.accessor
  model := request.model
  bridge := request.bridge
  fields := fields

/-- A model is completed when its fields are resolved and its table
passes the checks; the table comes after those of the models before. -/
theorem completeTable_eq_ok {id : TableId} {request : TableRequest} {u : Unit} :
    completeTable env id request p = .ok (u, p') ↔
      ∃ decls fields q, env.answers p.asked request.model = .ok decls ∧
        decls.mapM (tableField env request) { p with asked := p.asked ++ [request.model] } =
          .ok (fields, q) ∧
        TableChecked request fields ∧
        p' = { q with tables := q.tables ++ [request.toTable id fields] } := by
  unfold completeTable
  rw [Step.bind_eq_ok]
  constructor
  · rintro ⟨decls, q, hask, h⟩
    obtain ⟨hdecls, rfl⟩ := Setting.ask_eq_ok.1 (Step.located_eq_ok.1 hask)
    obtain ⟨fields, q', hfields, h₁⟩ := Step.bind_eq_ok.1 h
    obtain ⟨_, q'', hcheck, h₂⟩ := Step.bind_eq_ok.1 h₁
    obtain ⟨hchecked, rfl⟩ := checkTable_eq_ok.1 (Step.located_eq_ok.1 hcheck)
    exact ⟨decls, fields, q'', hdecls, Step.mapM_located_eq_ok.1 hfields, hchecked, Step.modify_eq_ok.1 h₂⟩
  · rintro ⟨decls, fields, q, hdecls, hfields, hchecked, rfl⟩
    refine ⟨decls, _, Step.located_eq_ok.2 (Setting.ask_eq_ok.2 ⟨hdecls, rfl⟩), ?_⟩
    refine Step.bind_eq_ok.2 ⟨fields, q, Step.mapM_located_eq_ok.2 hfields, ?_⟩
    exact Step.bind_eq_ok.2 ⟨(), q, Step.located_eq_ok.2 (checkTable_eq_ok.2 ⟨hchecked, rfl⟩),
      Step.modify_eq_ok.2 rfl⟩

/-- The tables bear out a foretold key: the table has a primary key of
that name and type. -/
def Prediction.BorneOut (tables : List Table) (prediction : Prediction) : Prop :=
  ∃ t key, tables[prediction.table]? = some t ∧ t.primaryKey? = some key ∧
    key.name = prediction.key ∧ key.valueType = prediction.type

theorem checkPrediction_eq_ok {tables : List Table} {prediction : Prediction} {u : Unit} :
    checkPrediction tables prediction p = .ok (u, p') ↔ prediction.BorneOut tables ∧ p' = p := by
  unfold checkPrediction
  rw [Step.located_eq_ok, Step.require_eq_ok, beq_iff_eq, Option.map_eq_some_iff]
  refine and_congr_left' ⟨?_, ?_⟩
  · rintro ⟨key, hkey, hsame⟩
    obtain ⟨t, ht, hkey⟩ := Option.bind_eq_some_iff.1 hkey
    obtain ⟨hname, htype⟩ := Prod.mk.inj hsame
    exact ⟨t, key, ht, hkey, hname, htype⟩
  · rintro ⟨t, key, ht, hkey, hname, htype⟩
    exact ⟨key, Option.bind_eq_some_iff.2 ⟨t, ht, hkey⟩, Prod.ext hname htype⟩

theorem checkPredictions_eq_ok {tables : List Table} {predictions : List Prediction} {u : Unit} :
    predictions.forM (checkPrediction tables) p = .ok (u, p') ↔
      (∀ prediction ∈ predictions, prediction.BorneOut tables) ∧ p' = p := by
  induction predictions with
  | nil =>
      refine Step.pure_eq_ok.trans ?_
      simp
  | cons prediction predictions ih =>
      simp only [Step.forM_cons_eq_ok, checkPrediction_eq_ok]
      constructor
      · rintro ⟨q, ⟨hfirst, rfl⟩, h⟩
        obtain ⟨hrest, rfl⟩ := ih.1 h
        exact ⟨List.forall_mem_cons.2 ⟨hfirst, hrest⟩, rfl⟩
      · rintro ⟨h, rfl⟩
        obtain ⟨hfirst, hrest⟩ := List.forall_mem_cons.1 h
        exact ⟨p', ⟨hfirst, rfl⟩, ih.2 ⟨hrest, rfl⟩⟩

/-- Completes all models, in order. -/
def completeAll (env : Setting) : Step Unit :=
  env.models.zipIdx.forM fun (request, id) => completeTable env id request

/-- Resolves the structures asked for on their own, in order. -/
def resolveStructures (env : Setting) (types : List TypeExpr) : Step Unit :=
  types.forM fun type => do
    let _ ← Step.located type.name none (structureOf env type)

theorem resolveStructures_nil_eq_ok {u : Unit} :
    resolveStructures env [] p = .ok (u, p') ↔ p' = p :=
  Step.pure_eq_ok.trans (and_iff_right rfl)

theorem resolveStructures_cons_eq_ok {type : TypeExpr} {types : List TypeExpr} {u : Unit} :
    resolveStructures env (type :: types) p = .ok (u, p') ↔
      ∃ s q, structureOf env type p = .ok (s, q) ∧
        resolveStructures env types q = .ok (u, p') := by
  unfold resolveStructures
  rw [Step.forM_cons_eq_ok]
  constructor
  · rintro ⟨q, hs, hrest⟩
    obtain ⟨s, q', hs, hu⟩ := Step.bind_eq_ok.1 hs
    obtain ⟨-, rfl⟩ := Step.pure_eq_ok.1 hu
    exact ⟨s, q, Step.located_eq_ok.1 hs, hrest⟩
  · rintro ⟨s, q, hs, hrest⟩
    exact ⟨q, Step.bind_eq_ok.2 ⟨s, q, Step.located_eq_ok.2 hs, Step.pure_eq_ok.2 ⟨rfl, rfl⟩⟩,
      hrest⟩

/-- The run after the registration: all models are completed, what was
foretold of them is borne out, and the structures asked for on their own
are resolved. -/
theorem resolveAll_eq_ok {types : List TypeExpr} {u : Unit} :
    resolveAll env types p = .ok (u, p') ↔
      ∃ q, completeAll env p = .ok ((), q) ∧
        (∀ prediction ∈ q.predictions, prediction.BorneOut q.tables) ∧
        resolveStructures env types q = .ok (u, p') := by
  unfold resolveAll
  rw [Step.bind_eq_ok]
  constructor
  · rintro ⟨_, q, hcomplete, h⟩
    rw [Step.get_bind] at h
    obtain ⟨_, q', hcheck, h₁⟩ := Step.bind_eq_ok.1 h
    obtain ⟨hborne, rfl⟩ := checkPredictions_eq_ok.1 hcheck
    exact ⟨q', hcomplete, hborne, h₁⟩
  · rintro ⟨q, hcomplete, hborne, h⟩
    refine ⟨(), q, hcomplete, ?_⟩
    rw [Step.get_bind]
    exact Step.bind_eq_ok.2 ⟨(), q, checkPredictions_eq_ok.2 ⟨hborne, rfl⟩, h⟩

/-- A request is resolved into the schema that its run ends with. -/
theorem resolveWithin_eq_ok {room : Nat}
    {answers : List TypeExpr → TypeExpr → Except Failure (List FieldDecl)} {locator : Locator}
    {request : Request} {s : Schema} :
    resolveWithin room answers locator request = .ok s ↔
      ∃ q, registerAll request.models = .ok s.lookup ∧
        resolveAll ⟨answers, room, locator, request.models, s.lookup⟩ request.structures .start =
          .ok ((), q) ∧
        s.tables = q.tables ∧ s.structures = q.structures := by
  unfold resolveWithin
  cases registerAll request.models with
  | error e =>
      constructor
      · intro h; cases h
      · rintro ⟨_, h, -⟩; cases h
  | ok lookup =>
      show Except.bind (resolveAll ⟨answers, room, locator, request.models, lookup⟩
        request.structures .start)
        (fun r => Except.ok (⟨r.2.tables, r.2.structures, lookup⟩ : Schema)) = .ok s ↔ _
      constructor
      · intro h
        cases hrun : resolveAll ⟨answers, room, locator, request.models, lookup⟩
            request.structures .start with
        | error e => rw [hrun] at h; cases h
        | ok r =>
            rw [hrun] at h
            obtain rfl := Except.ok.inj h
            exact ⟨r.2, rfl, hrun, rfl, rfl⟩
      · rintro ⟨q, hlookup, hrun, htables, hstructures⟩
        obtain ⟨tables, structures, lookup'⟩ := s
        obtain rfl := Except.ok.inj hlookup
        rw [hrun]
        obtain rfl : tables = q.tables := htables
        obtain rfl : structures = q.structures := hstructures
        rfl

end Rowsmith

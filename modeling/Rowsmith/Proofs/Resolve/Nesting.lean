/-
Nested structures where descriptions never change.

If a type is described alike each time it is asked for, there is at most
one structure it can be nested as, and it does not depend on the run:
`Nests` says so without progress, memory or room. A run finds exactly
these structures, whatever it has resolved before and whatever else is
under construction.

# Why a run finds them

What a run remembers are such structures, so looking one up is as good as
building it (`structureWithin_sound`). A structure under construction
never needs itself: the depth of a structure is more than that of its
parts, and so the types that are under construction cannot be nested as
deep as the one that is asked for, which therefore is none of them
(`structureWithin_complete`). They are distinct and all described, so the
room is not used up either.
-/
import Rowsmith.Proofs.Resolve.Run
import Mathlib.Data.List.Perm.Subperm
import Mathlib.Logic.Relation

namespace Rowsmith

variable {describe : TypeExpr → Except Failure (List FieldDecl)} {locator : Locator}
  {n m : Nat} {type : TypeExpr} {s s' : Structure}

-- =============================================================== nesting

/-- The grounds on which parts are resolved: there are no references
among them. -/
def Grounds.nesting (nests : TypeExpr → Structure → Prop) : Grounds where
  described _ _ := False
  refers _ _ := False
  nests := nests

/-- A part of the structure of a type is resolved from a declared
field. -/
def Part.ResolvedFrom (locator : Locator) (nests : TypeExpr → Structure → Prop) (type : TypeExpr)
    (f : FieldDecl) (part : Part) : Prop :=
  ∃ v x, verdict? locator (.structured type) f = some v ∧ v.Holds (.nesting nests) f x ∧
    partFor? f x = some part

theorem Part.ResolvedFrom.mono {nests nests' : TypeExpr → Structure → Prop} {f : FieldDecl}
    {part : Part} (h : part.ResolvedFrom locator nests type f)
    (hnests : ∀ type s, nests type s → nests' type s) :
    part.ResolvedFrom locator nests' type f := by
  obtain ⟨v, x, hv, hx, hpart⟩ := h
  exact ⟨v, x, hv, hx.mono ⟨fun _ _ h => h, fun _ _ h => h, hnests⟩, hpart⟩

/-- A part that is a structure is for a field that is to be nested, and the
structure is one that the declared type may be nested as. -/
theorem Part.ResolvedFrom.nested {nests : TypeExpr → Structure → Prop} {f : FieldDecl}
    {head : PartHead} {inner : Structure}
    (h : Part.ResolvedFrom locator nests type f (.nested head inner.type inner.parts)) :
    verdict? locator (.structured type) f = some (.nested head.type) ∧ nests head.type inner := by
  obtain ⟨v, x, hv, hx, hfor⟩ := h
  cases x with
  | nested s' =>
      obtain ⟨hoption, hfor⟩ := Option.ite_none_left_eq_some.1 hfor
      obtain ⟨rfl, htype, hinner⟩ := Part.nested.inj (Option.some.inj hfor)
      obtain rfl : s' = inner := by
        cases s'
        cases inner
        exact Structure.mk.injEq .. ▸ ⟨htype, hinner⟩
      -- the type of the values is the declared one, which is not optional
      have hvalue : f.type.valueType = f.type := TypeExpr.valueType_of_not_isOption hoption
      have hnests := hx.nested hv
      rw [hvalue] at hnests
      refine ⟨?_, hnests⟩
      cases v with
      | settled y =>
          obtain rfl : Resolved.nested s' = y := hx
          cases foundBy_of_verdict? hv
      | reference request => cases model_of_verdict?_reference hv
      | nested type' =>
          cases foundBy_of_verdict? hv
          rw [hv, hvalue]
  | adapted adapter => cases (Option.ite_none_left_eq_some.1 hfor).2
  | _ => cases hfor

/-- A type is nested as a structure whose parts are nested less deep. -/
def NestsWithin (describe : TypeExpr → Except Failure (List FieldDecl)) (locator : Locator) :
    Nat → TypeExpr → Structure → Prop
  | 0, _, _ => False
  | depth + 1, type, s => s.type = type ∧ ∃ fields, describe type = .ok fields ∧ fields ≠ [] ∧
      List.Forall₂ (Part.ResolvedFrom locator (NestsWithin describe locator depth) type) fields
        s.parts

/-- A type is nested as a structure. -/
def Nests (describe : TypeExpr → Except Failure (List FieldDecl)) (locator : Locator)
    (type : TypeExpr) (s : Structure) : Prop :=
  ∃ depth, NestsWithin describe locator depth type s

theorem NestsWithin.mono (h : NestsWithin describe locator n type s) (hnm : n ≤ m) :
    NestsWithin describe locator m type s := by
  induction n generalizing m type s with
  | zero => exact h.elim
  | succ n ih =>
      cases m with
      | zero => omega
      | succ m =>
          obtain ⟨htype, fields, hfields, hsome, hparts⟩ := h
          refine ⟨htype, fields, hfields, hsome, hparts.imp fun f part hpart => ?_⟩
          exact hpart.mono fun _ _ hs => ih hs (by omega)

theorem Part.ResolvedFrom.unique {nests : TypeExpr → Structure → Prop} {f : FieldDecl}
    {part part' : Part} (hnests : ∀ type s s', nests type s → nests type s' → s = s')
    (h : part.ResolvedFrom locator nests type f) (h' : part'.ResolvedFrom locator nests type f) :
    part = part' := by
  obtain ⟨v, x, hv, hx, hpart⟩ := h
  obtain ⟨v', x', hv', hx', hpart'⟩ := h'
  obtain rfl := Option.some.inj (hv.symm.trans hv')
  have hsame : x = x' := hx.unique (fun _ _ hr => False.elim hr) hnests hx'
  rw [hsame] at hpart
  exact Option.some.inj (hpart.symm.trans hpart')

theorem NestsWithin.unique (h : NestsWithin describe locator n type s)
    (h' : NestsWithin describe locator n type s') : s = s' := by
  induction n generalizing type s s' with
  | zero => exact h.elim
  | succ n ih =>
      obtain ⟨htype, fields, hfields, -, hparts⟩ := h
      obtain ⟨htype', fields', hfields', -, hparts'⟩ := h'
      obtain rfl := Except.ok.inj (hfields.symm.trans hfields')
      have hsame : s.parts = s'.parts := by
        have hnests : ∀ type s s', NestsWithin describe locator n type s →
            NestsWithin describe locator n type s' → s = s' := fun _ _ _ hs hs' => ih hs hs'
        exact List.right_unique_forall₂' (fun _ _ _ hpart hpart' => hpart.unique hnests hpart')
          hparts hparts'
      cases s
      cases s'
      rw [Structure.mk.injEq]
      exact ⟨htype.trans htype'.symm, hsame⟩

theorem Nests.unique (h : Nests describe locator type s) (h' : Nests describe locator type s') :
    s = s' := by
  obtain ⟨n, h⟩ := h
  obtain ⟨m, h'⟩ := h'
  exact (h.mono (Nat.le_max_left n m)).unique (h'.mono (Nat.le_max_right n m))

theorem Nests.type_eq (h : Nests describe locator type s) : s.type = type := by
  obtain ⟨n, h⟩ := h
  cases n with
  | zero => exact h.elim
  | succ n => exact h.1

/-- Parts whose structures have some depth each have one in common. -/
theorem exists_depth {fields : List FieldDecl} {parts : List Part}
    (h : List.Forall₂ (Part.ResolvedFrom locator (Nests describe locator) type) fields parts) :
    ∃ depth, List.Forall₂
      (Part.ResolvedFrom locator (NestsWithin describe locator depth) type) fields parts := by
  induction h with
  | nil => exact ⟨0, .nil⟩
  | @cons f part fields parts hpart _ ih =>
      obtain ⟨depth, hparts⟩ := ih
      obtain ⟨v, x, hv, hx, hfor⟩ := hpart
      cases v with
      | settled y => exact ⟨depth, .cons ⟨_, x, hv, hx, hfor⟩ hparts⟩
      | reference request =>
          obtain ⟨r, -, hr⟩ := hx
          exact hr.elim
      | nested inner =>
          obtain ⟨s, hx, depth', hs⟩ := hx
          have hs' : NestsWithin describe locator (max depth depth') inner s :=
            hs.mono (Nat.le_max_right ..)
          refine ⟨max depth depth', .cons ⟨_, x, hv, ⟨s, hx, hs'⟩, hfor⟩ ?_⟩
          refine hparts.imp fun f part hpart => hpart.mono fun _ _ hs => ?_
          exact hs.mono (Nat.le_max_left ..)

/-- The structure of a type is made of the parts of its fields. -/
theorem nests_iff :
    Nests describe locator type s ↔ s.type = type ∧ ∃ fields, describe type = .ok fields ∧
      fields ≠ [] ∧
      List.Forall₂ (Part.ResolvedFrom locator (Nests describe locator) type) fields s.parts := by
  constructor
  · intro h
    obtain ⟨n, h⟩ := h
    cases n with
    | zero => exact h.elim
    | succ n =>
        obtain ⟨htype, fields, hfields, hsome, hparts⟩ := h
        exact ⟨htype, fields, hfields, hsome,
          hparts.imp fun _ _ hpart => hpart.mono fun _ _ hs => ⟨n, hs⟩⟩
  · intro h
    obtain ⟨htype, fields, hfields, hsome, hparts⟩ := h
    obtain ⟨depth, hparts⟩ := exists_depth hparts
    exact ⟨depth + 1, htype, fields, hfields, hsome, hparts⟩

-- ============================================================== memory

/-- The type that declares the fields of an owner. -/
def Owner.declarer : Owner → TypeExpr
  | .model request => request.model
  | .structured type => type

/-- A field of the owner is stored as the nested structure of a type. -/
def Owner.Needs (describe : TypeExpr → Except Failure (List FieldDecl)) (locator : Locator)
    (owner : Owner) (inner : TypeExpr) : Prop :=
  ∃ fields f, describe owner.declarer = .ok fields ∧ f ∈ fields ∧
    verdict? locator owner f = some (.nested inner)

/-- A type needs another when its structure cannot be made without
that of the other. -/
def Reaches (describe : TypeExpr → Except Failure (List FieldDecl)) (locator : Locator) :
    TypeExpr → TypeExpr → Prop :=
  Relation.ReflTransGen fun type inner => (Owner.structured type).Needs describe locator inner

/-- What a run remembers: every structure is the one its type is nested
as, and those that it needs are remembered too. -/
structure Memo (describe : TypeExpr → Except Failure (List FieldDecl)) (locator : Locator)
    (structures : List Structure) : Prop where
  sound : ∀ s ∈ structures, Nests describe locator s.type s
  closed : ∀ s ∈ structures, ∀ inner, (Owner.structured s.type).Needs describe locator inner →
    ∃ s' ∈ structures, s'.type = inner

theorem Memo.nil : Memo describe locator [] where
  sound _ h := nomatch h
  closed _ h := nomatch h

theorem Memo.reaches {structures : List Structure} (h : Memo describe locator structures)
    (hs : s ∈ structures) {inner : TypeExpr} (hinner : Reaches describe locator s.type inner) :
    ∃ s' ∈ structures, s'.type = inner := by
  induction hinner with
  | refl => exact ⟨s, hs, rfl⟩
  | tail _ hneeds ih =>
      obtain ⟨s', hs', htype⟩ := ih
      exact h.closed s' hs' _ (htype ▸ hneeds)

/-- A structure that is known for a type is the one the type is nested
as. -/
theorem Memo.known {p : Progress} (h : Memo describe locator p.structures)
    (hknown : p.known? type = some s) : Nests describe locator type s := by
  have htype : s.type = type := by simpa using List.find?_some hknown
  exact htype ▸ h.sound s (List.mem_of_find?_eq_some hknown)

theorem Memo.append {structures : List Structure} (h : Memo describe locator structures)
    (hs : Nests describe locator s.type s)
    (hneeds : ∀ inner, (Owner.structured s.type).Needs describe locator inner →
      ∃ s' ∈ structures, s'.type = inner) :
    Memo describe locator (structures ++ [s]) := by
  constructor
  · intro s' hs'
    rcases List.mem_append.1 hs' with hs' | hs'
    · exact h.sound s' hs'
    · obtain rfl := List.mem_singleton.1 hs'
      exact hs
  · intro s' hs' inner hinner
    have hfound : ∃ s'' ∈ structures, s''.type = inner := by
      rcases List.mem_append.1 hs' with hs' | hs'
      · exact h.closed s' hs' inner hinner
      · obtain rfl := List.mem_singleton.1 hs'
        exact hneeds inner hinner
    obtain ⟨s'', hs'', htype⟩ := hfound
    exact ⟨s'', List.mem_append_left _ hs'', htype⟩

-- ================================================================= runs

section

variable {env : Setting} {p p' : Progress} {room : Nat} {enclosing : List TypeExpr}

/-- How a run went on while a structure was resolved: what it remembers is
right, nothing was foretold, and whatever was added is needed for the
structure. -/
structure Progress.Nested (describe : TypeExpr → Except Failure (List FieldDecl))
    (locator : Locator) (p : Progress) (type : TypeExpr) (p' : Progress) : Prop where
  memo : Memo describe locator p'.structures
  predictions : p'.predictions = p.predictions
  kept : p.structures ⊆ p'.structures
  needed : ∀ s ∈ p'.structures, s ∈ p.structures ∨ Reaches describe locator type s.type

theorem Progress.Nested.asked (hp : Memo describe locator p.structures) (asked : List TypeExpr) :
    p.Nested describe locator type { p with asked := asked } :=
  ⟨hp, rfl, List.Subset.refl _, fun _ hs => Or.inl hs⟩

/-- What is added for a part is needed for the whole. -/
theorem Progress.Nested.part {q : Progress} {inner : TypeExpr}
    (h : p.Nested describe locator type q) (h' : q.Nested describe locator inner p')
    (hneeds : (Owner.structured type).Needs describe locator inner) :
    p.Nested describe locator type p' := by
  refine ⟨h'.memo, h'.predictions.trans h.predictions, List.Subset.trans h.kept h'.kept,
    fun s hs => ?_⟩
  rcases h'.needed s hs with hs | hs
  · exact h.needed s hs
  · exact Or.inr (.head hneeds hs)

/-- Whatever a step nests a type as is the structure of the type. -/
def NestsRightly (describe : TypeExpr → Except Failure (List FieldDecl)) (locator : Locator)
    (nest : TypeExpr → Step Structure) : Prop :=
  ∀ type s p p', Memo describe locator p.structures → nest type p = .ok (s, p') →
    Nests describe locator type s ∧ s ∈ p'.structures ∧ p.Nested describe locator type p'

/-- A part that is resolved is resolved from its field, and the structure
it is made of, if there is one, is remembered. -/
def Progress.HoldsPart (describe : TypeExpr → Except Failure (List FieldDecl))
    (locator : Locator) (type : TypeExpr) (f : FieldDecl) (part : Part) (p : Progress) : Prop :=
  Part.ResolvedFrom locator (Nests describe locator) type f part ∧
    ∀ inner, verdict? locator (.structured type) f = some (.nested inner) →
      ∃ s ∈ p.structures, s.type = inner

theorem Progress.HoldsPart.mono {f : FieldDecl} {part : Part}
    (h : p.HoldsPart describe locator type f part) (hp : p.structures ⊆ p'.structures) :
    p'.HoldsPart describe locator type f part := by
  refine ⟨h.1, fun inner hinner => ?_⟩
  obtain ⟨s, hs, htype⟩ := h.2 inner hinner
  exact ⟨s, hp hs, htype⟩

/-- One part of the structure of a type is resolved after others. -/
theorem resolvePart_sound {nest : TypeExpr → Step Structure} {fields : List FieldDecl}
    (hnest : NestsRightly describe env.locator nest) (hfields : describe type = .ok fields)
    {f : FieldDecl} (hf : f ∈ fields) {part : Part} {q : Progress}
    (hp : p.Nested describe env.locator type q)
    (h : resolvePart env nest type f q = .ok (part, p')) :
    p.Nested describe env.locator type p' ∧ p'.HoldsPart describe env.locator type f part ∧
      q.structures ⊆ p'.structures := by
  obtain ⟨v, x, hv, hx, hfor⟩ := resolvePart_eq_ok.1 h
  cases v with
  | settled y =>
      obtain ⟨hy, rfl⟩ := hx
      refine ⟨hp, ⟨⟨_, x, hv, hy, hfor⟩, fun inner hinner => ?_⟩, List.Subset.refl _⟩
      cases hv.symm.trans hinner
  | reference request => cases model_of_verdict?_reference hv
  | nested inner =>
      obtain ⟨s, hs, hx⟩ := hx
      obtain ⟨hnests, hmem, hq⟩ := hnest inner s q p' hp.memo hs
      refine ⟨hp.part hq ⟨fields, f, hfields, hf, hv⟩,
        ⟨⟨_, x, hv, ⟨s, hx, hnests⟩, hfor⟩, fun inner' hinner => ?_⟩, hq.kept⟩
      obtain rfl := Verdict.nested.inj (Option.some.inj (hv.symm.trans hinner))
      exact ⟨s, hmem, hnests.type_eq⟩

/-- The structure that a run resolves for a type is the one the type is
nested as. -/
theorem structureWithin_sound (hanswers : ∀ asked type, env.answers asked type = describe type) :
    NestsRightly describe env.locator (structureWithin env room enclosing) := by
  -- on the room, with the types under construction: what is resolved depends
  -- on neither
  induction room generalizing enclosing with
  | zero =>
      intro type s p p' hp h
      rcases structureWithin_eq_ok.1 h with ⟨hknown, rfl⟩ | ⟨-, -, room, _, _, _, hroom, -⟩
      · exact ⟨hp.known hknown, List.mem_of_find?_eq_some hknown, .asked hp _⟩
      · cases hroom
  | succ room ih =>
      intro type s p p' hp h
      rcases structureWithin_eq_ok.1 h with
        ⟨hknown, rfl⟩ | ⟨-, -, room', fields, parts, q, hroom, hanswer, hsome, hparts, rfl, rfl⟩
      · exact ⟨hp.known hknown, List.mem_of_find?_eq_some hknown, .asked hp _⟩
      obtain rfl := Nat.succ.inj hroom
      rw [hanswers] at hanswer
      obtain ⟨hq, hresolved, -⟩ := Step.mapM_ok (fun q => p.Nested describe env.locator type q)
        (fun f part q => q.HoldsPart describe env.locator type f part)
        (fun f hf part q q' hq hpart => by
          obtain ⟨hq', hholds, hkept⟩ := resolvePart_sound ih hanswer hf hq hpart
          exact ⟨hq', hholds, fun _ _ h => h.mono hkept⟩)
        (.asked hp _) hparts
      have hnests : Nests describe env.locator type ⟨type, parts⟩ :=
        nests_iff.2 ⟨rfl, fields, hanswer, hsome, hresolved.imp fun _ _ h => h.1⟩
      refine ⟨hnests, List.mem_append_right _ (List.mem_singleton_self _),
        hq.memo.append hnests fun inner hinner => ?_, hq.predictions,
        List.subset_append_of_subset_left _ hq.kept, fun s hs => ?_⟩
      · -- what the structure needs was resolved with its parts
        obtain ⟨fields', f, hfields, hf, hv⟩ := hinner
        obtain rfl := Except.ok.inj (hanswer.symm.trans hfields)
        obtain ⟨part, -, hpart⟩ := Related.exists_mem hresolved hf
        exact hpart.2 inner hv
      · rcases List.mem_append.1 hs with hs | hs
        · exact hq.needed s hs
        · obtain rfl := List.mem_singleton.1 hs
          exact Or.inr .refl

/-- A part is resolved if the structures it may need are. -/
theorem resolvePart_complete {nest : TypeExpr → Step Structure}
    (hnest : NestsRightly describe env.locator nest)
    (hcomplete : ∀ inner s (q : Progress), NestsWithin describe env.locator n inner s →
      Memo describe env.locator q.structures → ∃ q', nest inner q = .ok (s, q'))
    {f : FieldDecl} {part : Part}
    (h : Part.ResolvedFrom env.locator (NestsWithin describe env.locator n) type f part)
    (hp : Memo describe env.locator p.structures) :
    ∃ p', resolvePart env nest type f p = .ok (part, p') ∧
      Memo describe env.locator p'.structures := by
  obtain ⟨v, x, hv, hx, hfor⟩ := h
  cases v with
  | settled y => exact ⟨p, resolvePart_eq_ok.2 ⟨_, x, hv, ⟨hx, rfl⟩, hfor⟩, hp⟩
  | reference request => cases model_of_verdict?_reference hv
  | nested inner =>
      obtain ⟨s, hx, hs⟩ := hx
      obtain ⟨p', hp'⟩ := hcomplete inner s p hs hp
      obtain ⟨-, -, hnested⟩ := hnest inner s p p' hp hp'
      exact ⟨p', resolvePart_eq_ok.2 ⟨_, x, hv, ⟨s, hp', hx⟩, hfor⟩, hnested.memo⟩

/-- A structure is resolved if its type can be nested, none of the types
under construction can be nested as deep, and there is room for as many
structures as there are types that are described. -/
theorem structureWithin_complete {declared : List TypeExpr}
    (hanswers : ∀ asked type, env.answers asked type = describe type)
    (hdeclared : ∀ type fields, describe type = .ok fields → type ∈ declared)
    (hs : NestsWithin describe env.locator n type s)
    (henclosing : ∀ outer ∈ enclosing, outer ∈ declared ∧
      ∀ s', ¬ NestsWithin describe env.locator n outer s')
    (hnodup : enclosing.Nodup) (hroom : declared.length ≤ room + enclosing.length)
    (hp : Memo describe env.locator p.structures) :
    ∃ p', structureWithin env room enclosing type p = .ok (s, p') := by
  induction n generalizing type s enclosing room p with
  | zero => exact hs.elim
  | succ n ih =>
      have hless : ∀ outer ∈ enclosing, outer ∈ declared ∧
          ∀ s', ¬ NestsWithin describe env.locator n outer s' := by
        intro outer houter
        obtain ⟨hmem, hdeep⟩ := henclosing outer houter
        exact ⟨hmem, fun s' hs' => hdeep s' (hs'.mono (Nat.le_succ n))⟩
      -- a type that nests less deep is no matter of this step
      by_cases hshallow : ∃ s', NestsWithin describe env.locator n type s'
      · obtain ⟨s', hs'⟩ := hshallow
        obtain rfl := hs.unique (hs'.mono (Nat.le_succ n))
        exact ih hs' hless hnodup hroom hp
      cases hknown : p.known? type with
      | some known =>
          have hsame : s = known := Nests.unique ⟨n + 1, hs⟩ (hp.known hknown)
          rw [hsame]
          exact ⟨p, structureWithin_eq_ok.2 (Or.inl ⟨hknown, rfl⟩)⟩
      | none =>
          -- the type itself is one that no type under construction needs
          have hfresh : type ∉ enclosing := fun hmem => (henclosing type hmem).2 s hs
          obtain ⟨htype, fields, hfields, hsome, hparts⟩ := hs
          have hnodup' : (type :: enclosing).Nodup := List.nodup_cons.2 ⟨hfresh, hnodup⟩
          have hless' : ∀ outer ∈ type :: enclosing, outer ∈ declared ∧
              ∀ s', ¬ NestsWithin describe env.locator n outer s' := by
            intro outer houter
            rcases List.mem_cons.1 houter with houter | houter
            · rw [houter]
              exact ⟨hdeclared type fields hfields, fun s' hs' => hshallow ⟨s', hs'⟩⟩
            · exact hless outer houter
          -- the types under construction are distinct and described
          have hlength : (type :: enclosing).length ≤ declared.length :=
            (hnodup'.subperm fun outer houter => (hless' outer houter).1).length_le
          rw [List.length_cons] at hlength
          obtain ⟨room, rfl⟩ : ∃ room', room = room' + 1 := ⟨room - 1, by omega⟩
          have hroom' : declared.length ≤ room + (type :: enclosing).length := by
            rw [List.length_cons]
            omega
          have hcomplete : ∀ inner s' (q : Progress),
              NestsWithin describe env.locator n inner s' →
              Memo describe env.locator q.structures →
              ∃ q', structureWithin env room (type :: enclosing) inner q = .ok (s', q') :=
            fun inner s' q hs' hq => ih hs' hless' hnodup' hroom' hq
          have hrun : ∃ q, fields.mapM
              (resolvePart env (structureWithin env room (type :: enclosing)) type)
              { p with asked := p.asked ++ [type] } = .ok (s.parts, q) ∧
              Memo describe env.locator q.structures :=
            Step.mapM_succeeds (fun q => Memo describe env.locator q.structures) _
              (fun f _ part q hpart hq =>
                resolvePart_complete (structureWithin_sound hanswers) hcomplete hpart hq)
              hp hparts
          obtain ⟨q, hrun, -⟩ := hrun
          have hs : s = ⟨type, s.parts⟩ := by rw [← htype]
          exact ⟨_, structureWithin_eq_ok.2 (Or.inr ⟨hknown, hfresh, room, fields, s.parts, q, rfl,
            (hanswers _ _).trans hfields, hsome, hrun, hs, rfl⟩)⟩

/-- There is room for as many structures as there are types that are
described. -/
def RoomFor (describe : TypeExpr → Except Failure (List FieldDecl)) (room : Nat) : Prop :=
  ∃ declared : List TypeExpr, declared.length ≤ room ∧
    ∀ type fields, describe type = .ok fields → type ∈ declared

/-- A setting whose answers are those of a fixed description. -/
structure Setting.Steady (env : Setting) (describe : TypeExpr → Except Failure (List FieldDecl)) :
    Prop where
  answers : ∀ asked type, env.answers asked type = describe type
  room : RoomFor describe env.room

/-- Every structure that a type can be nested as is resolved, whatever
was resolved before. -/
theorem structureOf_complete (henv : env.Steady describe) (hs : Nests describe env.locator type s)
    (hp : Memo describe env.locator p.structures) :
    ∃ p', structureOf env type p = .ok (s, p') := by
  obtain ⟨declared, hroom, hdeclared⟩ := henv.room
  obtain ⟨n, hs⟩ := hs
  exact structureWithin_complete henv.answers hdeclared hs (fun _ h => nomatch h)
    List.nodup_nil hroom hp

end

end Rowsmith

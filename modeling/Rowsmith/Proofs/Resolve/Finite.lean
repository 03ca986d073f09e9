/-
Nested structures are finite.

A type can be nested as a structure if, however far one goes from a field
that is nested to the fields of its type, one comes to an end. A type from
which one comes back to a type one has been to cannot, and asking for its
structure has to fail.

# Failing for the right reason

There are many reasons to fail, and the fields that are looked at first may
give another one. That a structure contains itself is said only of a type
that is under construction already. All types under construction need the
one that is asked for (`NestCall.MadeFor.needed`), so such a type needs
itself, and the one that was asked for at first leads to it
(`structureWithin_containsItself`); no other failure says the same. The
induction is on the calls, not on the bound, which is not reached.

# Succeeding for the right reason

What is resolved is the structure that the type is nested as, and its parts
are nested less deep than it is. So no type that is reached needs itself
(`Nests.not_needsItself`), and no structure occurs in itself
(`Nests.not_within`). This needs what is remembered from before to be right,
which it is whenever no structure is under construction
(`Setting.AtRest.memo`).

Main result: `structures_finite`.
-/
import Rowsmith.Model.Registry
import Rowsmith.Proofs.Resolve.Assembly
import Rowsmith.Proofs.Resolve.Drafts
import Rowsmith.Proofs.Resolve.Failing
import Rowsmith.Proofs.Resolve.Steady
import Rowsmith.Proofs.Resolve.Unbounded

namespace Rowsmith

open Relation

-- =============================================================== cycles

section

variable {describe : TypeExpr → Except Failure (List FieldDecl)} {locator : Locator}
  {type inner : TypeExpr} {s outer n : Structure} {depth : Nat}

/-- From the fields of a type that are nested one comes back to the type,
directly or through others. -/
def NeedsItself (describe : TypeExpr → Except Failure (List FieldDecl)) (locator : Locator)
    (type : TypeExpr) : Prop :=
  TransGen (fun type inner => (Owner.structured type).Needs describe locator inner) type type

/-- What a type needs is nested less deep. -/
theorem NestsWithin.needs (h : NestsWithin describe locator (depth + 1) type s)
    (hneeds : (Owner.structured type).Needs describe locator inner) :
    ∃ s', NestsWithin describe locator depth inner s' := by
  obtain ⟨-, fields, hfields, -, hparts⟩ := h
  obtain ⟨fields', f, hfields', hf, hv⟩ := hneeds
  obtain rfl := Except.ok.inj (hfields.symm.trans hfields')
  obtain ⟨part, -, v, x, hv', hx, -⟩ := Related.exists_mem hparts hf
  obtain rfl := Option.some.inj (hv.symm.trans hv')
  obtain ⟨s', -, hs'⟩ := hx
  exact ⟨s', hs'⟩

theorem NestsWithin.needsThrough (h : NestsWithin describe locator (depth + 1) type s)
    (hneeds : TransGen (fun type inner => (Owner.structured type).Needs describe locator inner)
      type inner) :
    ∃ s', NestsWithin describe locator depth inner s' := by
  induction hneeds with
  | single hneeds => exact h.needs hneeds
  | tail _ hneeds ih =>
      obtain ⟨s', hs'⟩ := ih
      cases depth with
      | zero => exact hs'.elim
      | succ depth =>
          obtain ⟨s'', hs''⟩ := hs'.needs hneeds
          exact ⟨s'', hs''.mono (Nat.le_succ depth)⟩

theorem NestsWithin.not_needsItself (h : NestsWithin describe locator depth type s) :
    ¬ NeedsItself describe locator type := by
  intro hcycle
  -- on the depth, which gets smaller each time around
  induction depth generalizing s with
  | zero => exact h.elim
  | succ depth ih =>
      obtain ⟨s', hs'⟩ := h.needsThrough hcycle
      exact ih hs'

/-- A type that can be nested does not lead to one that needs itself. -/
theorem Nests.not_needsItself (h : Nests describe locator type s)
    (hreaches : Reaches describe locator type inner) : ¬ NeedsItself describe locator inner := by
  induction hreaches using ReflTransGen.head_induction_on generalizing s with
  | refl =>
      obtain ⟨depth, h⟩ := h
      exact h.not_needsItself
  | head hneeds _ ih =>
      obtain ⟨depth, h⟩ := h
      cases depth with
      | zero => exact h.elim
      | succ depth =>
          obtain ⟨s', hs'⟩ := h.needs hneeds
          exact ih ⟨depth, hs'⟩

-- ============================================================ occurrences

/-- A structure stands in another: it is one of its parts, or a part of one
of them, and so on. A part that is stored through a conversion or an adapter
that exists holds no structure, whatever its type is. -/
def Structure.Within (n s : Structure) : Prop :=
  TransGen (fun outer inner : Structure => inner.PartOf outer) s n

/-- A part that is a structure is the one its type is nested as, and the
whole needs it. -/
theorem Nests.part (h : Nests describe locator outer.type outer) (hpart : n.PartOf outer) :
    Nests describe locator n.type n ∧
      (Owner.structured outer.type).Needs describe locator n.type := by
  obtain ⟨-, fields, hfields, -, hparts⟩ := nests_iff.1 h
  obtain ⟨head, hpart⟩ := hpart
  obtain ⟨f, hf, hresolved⟩ := Related.exists_mem hparts.flip hpart
  obtain ⟨hv, hnests⟩ := Part.ResolvedFrom.nested hresolved
  rw [hnests.type_eq]
  exact ⟨hnests, fields, f, hfields, hf, hv⟩

theorem Nests.within (h : Nests describe locator s.type s) (hn : n.Within s) :
    Nests describe locator n.type n ∧
      TransGen (fun type inner => (Owner.structured type).Needs describe locator inner)
        s.type n.type := by
  induction hn with
  | single hpart =>
      obtain ⟨hn, hneeds⟩ := h.part hpart
      exact ⟨hn, .single hneeds⟩
  | tail _ hpart ih =>
      obtain ⟨houter, hthrough⟩ := ih
      obtain ⟨hn, hneeds⟩ := houter.part hpart
      exact ⟨hn, hthrough.tail hneeds⟩

/-- No structure stands in a structure of its own type. -/
theorem Nests.not_within (h : Nests describe locator s.type s) (hn : n.Within s) :
    n.type ≠ s.type := by
  intro hsame
  obtain ⟨-, hthrough⟩ := h.within hn
  rw [hsame] at hthrough
  exact h.not_needsItself .refl hthrough

end

-- ============================================================= failures

section

variable {env : Setting} {P : Failure → Prop} {type : TypeExpr}

/-- What goes wrong with a structure is said of it, or its type cannot be
described, or it went wrong with a structure that is nested in it. -/
theorem structureStep_failsAs {nest : List TypeExpr → TypeExpr → Step Structure}
    {enclosing : List TypeExpr}
    (hsaid : ∀ text, (Failure.structural text).Otherwise → P (.structural text))
    (hanswers : ∀ asked e, env.answers asked type = .error e → P e)
    (hclosed : type ∈ enclosing → P (containsItself type))
    (hnest : type ∉ enclosing → ∀ asked fields f inner, env.answers asked type = .ok fields →
      f ∈ fields → verdict? env.locator (.structured type) f = some (.nested inner) →
      (nest (type :: enclosing) inner).FailsAs P) :
    (structureStep env nest enclosing type).FailsAs P := by
  unfold structureStep
  refine .bind .get fun p => ?_
  split
  · exact .pure _
  refine .bind_of (.require fun hmem => hclosed (by simpa using hmem)) fun _ _ _ hfresh => ?_
  obtain ⟨hfresh, -⟩ := Step.require_eq_ok.1 hfresh
  refine .bind_of (Setting.ask_failsAs hanswers) fun q fields _ hask => ?_
  obtain ⟨hanswer, -⟩ := Setting.ask_eq_ok.1 hask
  refine .bind (.require fun _ => hsaid _ (.of_last rfl (by decide))) fun _ => ?_
  refine .bind (.mapM fun f hf => ?_) fun parts => .bind (.change _) fun _ => .pure _
  refine .bind (resolveField_failsAs hsaid nofun fun inner hinner => ?_) fun x =>
    partOf_failsAs hsaid x
  exact hnest (by simpa using hfresh) q.asked fields f inner hanswer hf hinner

/-- That a structure contains itself is said only of a type that does, and to
which the type leads that was asked for at first. -/
theorem structureWithin_containsItself
    {describe : TypeExpr → Except Failure (List FieldDecl)} {declared : List TypeExpr}
    (hanswers : ∀ asked type, env.answers asked type = describe type)
    (hdescribe : ∀ type e, describe type = .error e → e.Otherwise)
    (hdeclared : ∀ type fields, describe type = .ok fields → type ∈ declared)
    (hroom : declared.length ≤ env.room) {call : NestCall}
    (hcall : NestCall.MadeFor describe env.locator type call) :
    (structureWithin env env.room call.enclosing call.type).FailsAs fun e => e.Otherwise ∨
      ∃ mid, e = containsItself mid ∧ Reaches describe env.locator type mid ∧
        NeedsItself describe env.locator mid := by
  have hwf : WellFounded fun call' call : NestCall => call.Opens describe env.locator call' :=
    opens_wellFounded hdeclared
  -- on the calls: each opens others, and no chain of them goes on for ever
  induction call using hwf.induction with
  | _ call ih =>
      have hstep : structureWithin env env.room call.enclosing call.type =
          structureStep env (structureWithin env env.room) call.enclosing call.type := by
        refine structureWithin_eq_step (fun asked type fields hanswer => ?_)
          (hcall.underConstruction hdeclared) (by omega)
        rw [hanswers] at hanswer
        exact hdeclared type fields hanswer
      rw [hstep]
      apply structureStep_failsAs
      case hsaid => exact fun text htext => Or.inl htext
      case hanswers =>
        intro asked e hanswer
        rw [hanswers] at hanswer
        exact Or.inl (hdescribe _ e hanswer)
      case hclosed =>
        intro hmem
        exact Or.inr ⟨call.type, rfl, hcall.reaches, hcall.needed call.type hmem⟩
      case hnest =>
        intro hfresh asked fields f inner hanswer hf hv
        rw [hanswers] at hanswer
        have hopens : call.Opens describe env.locator ⟨call.type :: call.enclosing, inner⟩ :=
          ⟨hfresh, ⟨fields, f, hanswer, hf, hv⟩, rfl⟩
        exact ih _ hopens (hcall.tail hopens)

end

-- ============================================================== moments

section

variable {env : Setting} {describe : TypeExpr → Except Failure (List FieldDecl)} {q : Progress}

/-- A moment of a run at which no structure is under construction: at the
start, before a field of a model is resolved, or before a structure is that was
asked for. -/
inductive Setting.AtRest (env : Setting) : Progress → Prop
  | start : AtRest env .start
  | field {id : Nat} {request : TableRequest} {done rest : List FieldDecl}
      {fields : List TableField} {q : Progress}
      (moment : env.Moment id request done rest fields q) : AtRest env q
  | completed {p q : Progress} {types : List TypeExpr}
      (models : completeAll env .start = .ok ((), p))
      (structures : resolveStructures env types p = .ok ((), q)) : AtRest env q

/-- At any moment, what was resolved so far is what is declared. -/
theorem Setting.Moment.faithful (hanswers : ∀ asked type, env.answers asked type = describe type)
    {id : Nat} {request : TableRequest} {done rest : List FieldDecl} {fields : List TableField}
    (h : env.Moment id request done rest fields q) : q.Faithful env describe [] := by
  obtain ⟨p, hfirst, hanswer, hfields⟩ := h.reached
  have hp : p.Completed env (env.models.take id).length ∧ p.Faithful env describe [] := by
    refine Step.zipIdx_forM_ok
      (fun count q => q.Completed env count ∧ q.Faithful env describe []) ?_ ⟨.start, .start⟩ hfirst
    intro i r q q' hr hq hstep
    rw [List.getElem?_take] at hr
    have hrequest := (Option.ite_none_right_eq_some.1 hr).2
    exact completeTable_faithful hanswers hrequest hq.1 hq.2 hstep
  rw [hanswers] at hanswer
  refine Step.mapM_keeps (fun q => q.Faithful env describe []) ?_ (hp.2.ask _) hfields
  intro decl hdecl f q q' hq hf
  exact tableField_faithful hanswers hq (List.mem_of_getElem? h.next) hanswer
    (List.mem_append_left _ hdecl) hf

/-- What is remembered when no structure is under construction is right. -/
theorem Setting.AtRest.memo (hanswers : ∀ asked type, env.answers asked type = describe type)
    (h : env.AtRest q) : Memo describe env.locator q.structures := by
  cases h with
  | start => exact .nil
  | field moment => exact (moment.faithful hanswers).memo
  | @completed p _ types models structures =>
      have hp : p.Faithful env describe types := completeAll_faithful hanswers models
      exact (resolveStructures_faithful hanswers hp (List.Subset.refl types) structures).1.memo

end

-- ================================================================= main

theorem Catalog.describe_otherwise (c : Catalog) {type : TypeExpr} {e : Failure}
    (h : c.describe type = .error e) : e.Otherwise := by
  unfold Catalog.describe at h
  split at h
  case h_1 reason _ =>
    cases h
    exact .introspection _ _
  case h_2 =>
    split at h
    case h_1 => cases h
    case h_2 =>
      cases h
      exact .introspection _ _

/-- The setting in which a request is resolved from a catalog. -/
def Catalog.setting (c : Catalog) (locator : Locator) (request : Request)
    (lookup : List (TypeExpr × TableId)) : Setting :=
  request.setting c.describe c.describer.declared.length locator lookup

/-- What asking for the structure of a type comes to. It fails if the type
leads to one that needs itself. That a structure contains itself is said only
then, and of such a type. What is given is of the type that was asked for, and
no structure in it stands in a structure of its own type. -/
structure Setting.NestsFinitely (env : Setting)
    (describe : TypeExpr → Except Failure (List FieldDecl)) (type : TypeExpr) (p : Progress) :
    Prop where
  fails : ∀ mid, Reaches describe env.locator type mid → NeedsItself describe env.locator mid →
    ∃ e, structureOf env type p = .error e
  said : ∀ named, structureOf env type p = .error (containsItself named) →
    ∃ mid, containsItself mid = containsItself named ∧ Reaches describe env.locator type mid ∧
      NeedsItself describe env.locator mid
  given : ∀ s p', structureOf env type p = .ok (s, p') → s.type = type ∧
    ∀ outer inner : Structure, s.Comprises outer → inner.Within outer → inner.type ≠ outer.type

/-- What a run remembers is enough for a structure to be built rightly. -/
theorem Catalog.nestsFinitely (c : Catalog) {locator : Locator} {request : Request}
    {lookup : List (TypeExpr × TableId)} {p : Progress}
    (hmemo : Memo c.describe locator p.structures) (type : TypeExpr) :
    (c.setting locator request lookup).NestsFinitely c.describe type p := by
  have hnests : ∀ s p', structureOf (c.setting locator request lookup) type p = .ok (s, p') →
      Nests c.describe locator type s :=
    fun s p' h => (structureWithin_sound (fun _ _ => rfl) type s p p' hmemo h).1
  constructor
  case fails =>
    intro mid hreaches hcycle
    cases hrun : structureOf (c.setting locator request lookup) type p with
    | error e => exact ⟨e, rfl⟩
    | ok r => exact absurd hcycle ((hnests r.1 r.2 hrun).not_needsItself hreaches)
  case said =>
    intro named h
    have hcall : NestCall.MadeFor c.describe locator type ⟨[], type⟩ := .refl
    have hanswers : ∀ asked type,
        (c.setting locator request lookup).answers asked type = c.describe type :=
      fun _ _ => rfl
    have hfails := structureWithin_containsItself hanswers (fun _ _ => c.describe_otherwise)
      (fun _ _ => c.mem_declared) (Nat.le_refl _) hcall
    rcases hfails p _ h with hother | ⟨mid, hsame, hreaches, hcycle⟩
    · exact absurd rfl (hother named)
    · exact ⟨mid, hsame.symm, hreaches, hcycle⟩
  case given =>
    intro s p' h
    have hs := hnests s p' h
    have htype := hs.type_eq
    refine ⟨htype, fun outer inner houter hinner => ?_⟩
    rw [← htype] at hs
    have houter : Nests c.describe locator outer.type outer := by
      rcases reflTransGen_iff_eq_or_transGen.1 houter with rfl | houter
      · exact hs
      · exact (hs.within houter).1
    exact houter.not_within hinner

/-- Nested structures are built in finitely many steps, and only if they are
finite. Whatever a catalog describes, no chain of calls goes on for ever; the
types under construction at a call are distinct and declared, and there the
definition satisfies the equation of the recursion that has no bound. And
whenever no structure is under construction, asking for one comes to what it
should (`Setting.NestsFinitely`). -/
theorem structures_finite (c : Catalog) (locator : Locator) (request : Request)
    (lookup : List (TypeExpr × TableId)) :
    (WellFounded fun call' call : NestCall => call.Opens c.describe locator call') ∧
    ∀ type,
      (∀ call : NestCall, NestCall.MadeFor c.describe locator type call →
        call.enclosing.Nodup ∧ call.enclosing ⊆ c.decls.map (·.type) ∧
        structureWithin (c.setting locator request lookup) c.decls.length call.enclosing
            call.type =
          structureStep (c.setting locator request lookup)
            (structureWithin (c.setting locator request lookup) c.decls.length) call.enclosing
            call.type) ∧
      ∀ p, (c.setting locator request lookup).AtRest p →
        (c.setting locator request lookup).NestsFinitely c.describe type p := by
  have hdeclared : ∀ type fields, c.describe type = .ok fields → type ∈ c.describer.declared :=
    fun _ _ => c.mem_declared
  refine ⟨opens_wellFounded hdeclared, fun type => ⟨fun call hcall => ?_, fun p hp => ?_⟩⟩
  · have hunder := hcall.underConstruction hdeclared
    refine ⟨hunder.distinct, hunder.declared, ?_⟩
    refine structureWithin_eq_step (fun _ type fields => hdeclared type fields) hunder ?_
    have hlength : c.describer.declared.length = c.decls.length := List.length_map ..
    omega
  · exact c.nestsFinitely (hp.memo fun _ _ => rfl) type

/-- Folders of entries that are folders, and badges with a label. -/
def folderCatalog : Catalog where
  decls := [
    ⟨.named "Folder", [.plain "name" (.named "String"), .plain "entry" (.named "Entry")], false,
      none, none, [], none⟩,
    ⟨.named "Entry", [.plain "folder" (.named "Folder")], false, none, none, [], none⟩,
    ⟨.named "Badge", [.plain "label" (.named "Label")], false, none, none, [], none⟩,
    ⟨.named "Label", [.plain "text" (.named "String")], false, none, none, [], none⟩]
  unsupported := []

/-- An entry leads to a folder, which needs itself, and so has no structure:
the entry that is come back to is under construction. A badge has one. -/
theorem structures_finite_folder :
    (∃ call : NestCall, call.enclosing = [.named "Folder", .named "Entry"] ∧
      call.type = .named "Entry" ∧
      structureWithin (folderCatalog.setting Registry.empty.locator ⟨[], []⟩ []) 4 call.enclosing
          call.type =
        structureStep (folderCatalog.setting Registry.empty.locator ⟨[], []⟩ [])
          (structureWithin (folderCatalog.setting Registry.empty.locator ⟨[], []⟩ []) 4)
          call.enclosing call.type) ∧
    (∃ e, structureOf (folderCatalog.setting Registry.empty.locator ⟨[], []⟩ []) (.named "Entry")
      .start = .error e) ∧
    ∃ s p', structureOf (folderCatalog.setting Registry.empty.locator ⟨[], []⟩ []) (.named "Badge")
        .start = .ok (s, p') ∧ s.type = .named "Badge" ∧
      ∀ inner : Structure, inner.Within s → inner.type ≠ .named "Badge" := by
  have hasks : ∀ type, (folderCatalog.setting Registry.empty.locator ⟨[], []⟩ []).NestsFinitely
      folderCatalog.describe type .start := fun type =>
    ((structures_finite folderCatalog Registry.empty.locator ⟨[], []⟩ []).2 type).2 .start .start
  have hfolder : (Owner.structured (.named "Folder")).Needs folderCatalog.describe
      Registry.empty.locator (.named "Entry") :=
    ⟨_, .plain "entry" (.named "Entry"), rfl, List.mem_cons_of_mem _ List.mem_cons_self, rfl⟩
  have hentry : (Owner.structured (.named "Entry")).Needs folderCatalog.describe
      Registry.empty.locator (.named "Folder") :=
    ⟨_, .plain "folder" (.named "Folder"), rfl, List.mem_cons_self, rfl⟩
  refine ⟨⟨⟨[.named "Folder", .named "Entry"], .named "Entry"⟩, rfl, rfl, ?_⟩, ?_, ?_⟩
  · have hcall : NestCall.MadeFor folderCatalog.describe Registry.empty.locator (.named "Entry")
        ⟨[.named "Folder", .named "Entry"], .named "Entry"⟩ :=
      .tail (.single (b := ⟨[.named "Entry"], .named "Folder"⟩) ⟨by decide, hentry, rfl⟩)
        ⟨by decide, hfolder, rfl⟩
    exact ((((structures_finite folderCatalog Registry.empty.locator ⟨[], []⟩ []).2 _).1 _
      hcall).2).2
  · exact (hasks _).fails (.named "Folder") (.single hentry) (.tail (.single hfolder) hentry)
  · have hfound : (structureOf (folderCatalog.setting Registry.empty.locator ⟨[], []⟩ [])
        (.named "Badge") .start).toOption.isSome = true := by
      decide +kernel
    obtain ⟨⟨s, p'⟩, hfound⟩ := Option.isSome_iff_exists.1 hfound
    have hs := Attempt.toOption_eq_some.1 hfound
    obtain ⟨htype, hwithin⟩ := (hasks _).given s p' hs
    exact ⟨s, p', hs, htype, fun inner hinner => htype ▸ hwithin s inner .refl hinner⟩

end Rowsmith

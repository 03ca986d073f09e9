/-
How the steps of a run fail. A composed step fails as the first of its
parts does that fails, after all parts before it gave a value: every
statement of the first half says exactly when a composed step fails, and
with what. Where only the kind of failure matters, it is enough that every
part fails in no other way (`Step.FailsAs`).

# Failing fields

What goes wrong with a field is said of the field, unless it went wrong with
the reference that it is, or with the structure that is nested in it. What is
said of a field is never that a structure contains itself
(`resolveField_failsAs`).

# Plain failures

Nothing that goes wrong while a field or a structure is resolved is
wrapped on its way out. What is passed on from inside of nested structures
or from the description of another model is therefore what went wrong
there, as a single link: a failure is plain (`Failure.Plain`), and a step
is plain if all its failures are (`Step.Plain`). A composed step is plain
if its parts are. So the whole resolution of a field is plain
(`tableField_plain`), down to any depth of nesting, as long as the answers
it was given were; the induction is on the room that is left for
structures under construction.
-/
import Rowsmith.Proofs.Attempt
import Rowsmith.Proofs.Resolve.Outcome

namespace Rowsmith

-- ========================================================= failing steps

namespace Step

variable {α β : Type} {p p' : Progress} {e : Failure}

/-- A step that depends on another fails when that one does, or when it
does itself on what it was given. -/
theorem bind_eq_error {x : Step α} {f : α → Step β} :
    (x >>= f) p = .error e ↔ x p = .error e ∨ ∃ a q, x p = .ok (a, q) ∧ f a q = .error e := by
  show Except.bind (x p) (fun r => f r.1 r.2) = _ ↔ _
  cases x p with
  | error e' => simp [Except.bind]
  | ok r => simp [Except.bind, Prod.ext_iff]

theorem pure_ne_error {a : α} : (pure a : Step α) p ≠ .error e := by
  intro h
  cases h

theorem reject_eq_error {text : String} :
    (reject text : Step α) p = .error e ↔ e = .structural text := by
  show Except.error _ = Except.error e ↔ _
  rw [Except.error.injEq]
  exact eq_comm

theorem require_eq_error {condition : Bool} {text : String} :
    require condition text p = .error e ↔ condition = false ∧ e = .structural text := by
  cases condition with
  | true => simp [require, pure_ne_error]
  | false =>
      show (reject text : Step Unit) p = _ ↔ _
      rw [reject_eq_error]
      simp

/-- What a step fails with is put behind the place that is recorded. -/
theorem located_eq_error {model : String} {field : Option String} {step : Step α} :
    located model field step p = .error e ↔
      ∃ cause, step p = .error cause ∧ e = cause.whileProcessing model field := by
  unfold located
  cases step p with
  | error cause => simp [eq_comm]
  | ok r => simp

/-- The steps of a list fail as the first of them does that fails. -/
theorem mapM_eq_error {f : α → Step β} {l : List α} :
    l.mapM f p = .error e ↔
      ∃ before a after bs q, l = before ++ a :: after ∧ before.mapM f p = .ok (bs, q) ∧
        f a q = .error e := by
  induction l generalizing p with
  | nil =>
      constructor
      · intro h; cases h
      · intro ⟨before, a, after, bs, q, h, _⟩
        cases before <;> cases h
  | cons a l ih =>
      rw [List.mapM_cons, bind_eq_error]
      constructor
      · intro h
        rcases h with ha | ⟨b, q, ha, h⟩
        · exact ⟨[], a, l, [], p, rfl, rfl, ha⟩
        · rcases bind_eq_error.1 h with hl | ⟨bs, q', hl, h⟩
          · obtain ⟨before, a', after, bs, q', rfl, hbefore, ha'⟩ := ih.1 hl
            exact ⟨a :: before, a', after, b :: bs, q', rfl,
              mapM_cons_eq_ok.2 ⟨b, bs, q, ha, hbefore, rfl⟩, ha'⟩
          · exact absurd h pure_ne_error
      · intro ⟨before, a', after, bs, q, hsplit, hbefore, ha'⟩
        cases before with
        | nil =>
            obtain ⟨rfl, rfl⟩ := List.cons.inj hsplit
            obtain ⟨-, rfl⟩ := pure_eq_ok.1 hbefore
            exact Or.inl ha'
        | cons b before =>
            obtain ⟨rfl, rfl⟩ := List.cons.inj hsplit
            obtain ⟨b, bs', q', ha, hbefore, -⟩ := mapM_cons_eq_ok.1 hbefore
            refine Or.inr ⟨b, q', ha, bind_eq_error.2 (Or.inl ?_)⟩
            exact ih.2 ⟨before, a', after, bs', q, rfl, hbefore, ha'⟩

theorem forM_eq_mapM {f : α → Step Unit} {l : List α} :
    l.forM f = (do let _ ← l.mapM f : Step Unit) := by
  induction l with
  | nil => rw [List.mapM_nil, pure_bind]; rfl
  | cons a l ih =>
      show (f a >>= fun _ => l.forM f) = _
      rw [ih, List.mapM_cons]
      simp only [bind_assoc, pure_bind]

theorem forM_eq_error {f : α → Step Unit} {l : List α} :
    l.forM f p = .error e ↔
      ∃ before a after q, l = before ++ a :: after ∧ before.forM f p = .ok ((), q) ∧
        f a q = .error e := by
  have hok : ∀ (l : List α) (q : Progress),
      l.forM f p = .ok ((), q) ↔ ∃ us, l.mapM f p = .ok (us, q) := by
    intro l q
    rw [forM_eq_mapM, bind_eq_ok]
    simp only [pure_eq_ok, true_and]
    exact ⟨fun ⟨us, q', h, hq⟩ => ⟨us, hq ▸ h⟩, fun ⟨us, h⟩ => ⟨us, q, h, rfl⟩⟩
  rw [forM_eq_mapM, bind_eq_error]
  simp only [pure_ne_error, and_false, exists_false, or_false, mapM_eq_error, hok]
  constructor
  · intro ⟨before, a, after, us, q, hsplit, hbefore, ha⟩
    exact ⟨before, a, after, q, hsplit, ⟨us, hbefore⟩, ha⟩
  · intro ⟨before, a, after, q, hsplit, ⟨us, hbefore⟩, ha⟩
    exact ⟨before, a, after, us, q, hsplit, hbefore, ha⟩

/-- Numbered steps fail as the first of them does that fails. -/
theorem zipIdx_forM_eq_error {f : α × Nat → Step Unit} {l : List α} :
    l.zipIdx.forM f p = .error e ↔
      ∃ i a q, l[i]? = some a ∧ (l.take i).zipIdx.forM f p = .ok ((), q) ∧
        f (a, i) q = .error e := by
  rw [forM_eq_error]
  constructor
  · intro ⟨before, ⟨a, i⟩, after, q, hsplit, hbefore, ha⟩
    obtain ⟨hi, rfl⟩ := Attempt.zipIdx_cut_iff.1 ⟨after, hsplit⟩
    exact ⟨i, a, q, hi, hbefore, ha⟩
  · intro ⟨i, a, q, hi, hbefore, ha⟩
    obtain ⟨after, hsplit⟩ := Attempt.zipIdx_cut_iff.2 ⟨hi, rfl⟩
    exact ⟨_, (a, i), after, q, hsplit, hbefore, ha⟩

end Step

-- ===================================================== kinds of failures

/-- All failures of a step have a property. -/
def Step.FailsAs {α : Type} (P : Failure → Prop) (step : Step α) : Prop :=
  ∀ p e, step p = .error e → P e

namespace Step.FailsAs

variable {α β : Type} {P : Failure → Prop}

theorem pure (a : α) : Step.FailsAs P (Pure.pure a : Step α) :=
  fun _ _ h => absurd h pure_ne_error

/-- What follows on a step has only to be looked at after what the step can
have led to. -/
theorem bind_of {x : Step α} {f : α → Step β} (hx : x.FailsAs P)
    (hf : ∀ p a q, x p = .ok (a, q) → (f a).FailsAs P) : (x >>= f).FailsAs P := by
  intro p e h
  rcases bind_eq_error.1 h with hfails | ⟨a, q, hstep, hfails⟩
  · exact hx p e hfails
  · exact hf p a q hstep q e hfails

theorem bind {x : Step α} {f : α → Step β} (hx : x.FailsAs P) (hf : ∀ a, (f a).FailsAs P) :
    (x >>= f).FailsAs P :=
  bind_of hx fun _ a _ _ => hf a

theorem get : Step.FailsAs P (MonadState.get : Step Progress) := by
  intro p e h
  cases h

theorem change (f : Progress → Progress) : Step.FailsAs P (modify f : Step Unit) := by
  intro p e h
  cases h

theorem reject {text : String} (h : P (.structural text)) :
    (Step.reject text : Step α).FailsAs P := by
  intro p e hfails
  rw [reject_eq_error.1 hfails]
  exact h

theorem require {condition : Bool} {text : String} (h : condition = false → P (.structural text)) :
    (Step.require condition text).FailsAs P := by
  intro p e hfails
  obtain ⟨hcondition, rfl⟩ := require_eq_error.1 hfails
  exact h hcondition

theorem mapM {f : α → Step β} {l : List α} (h : ∀ a ∈ l, (f a).FailsAs P) :
    (l.mapM f).FailsAs P := by
  intro p e hfails
  obtain ⟨before, a, after, bs, q, rfl, -, ha⟩ := mapM_eq_error.1 hfails
  exact h a (List.mem_append_right _ List.mem_cons_self) q e ha

theorem forM {f : α → Step Unit} {l : List α} (h : ∀ a ∈ l, (f a).FailsAs P) :
    (l.forM f).FailsAs P := by
  rw [forM_eq_mapM]
  exact .bind (.mapM h) fun _ => .pure _

end Step.FailsAs

/-- A question fails with what it is answered. -/
theorem Setting.ask_failsAs {env : Setting} {P : Failure → Prop} {type : TypeExpr}
    (h : ∀ asked e, env.answers asked type = .error e → P e) : (env.ask type).FailsAs P := by
  intro p e hfails
  unfold Setting.ask at hfails
  rw [Step.get_bind] at hfails
  cases hanswer : env.answers p.asked type with
  | error e' =>
      rw [hanswer] at hfails
      obtain rfl := Except.error.inj hfails
      exact h p.asked e' hanswer
  | ok fields =>
      rw [hanswer] at hfails
      cases hfails

-- ======================================================= failing fields

/-- What is said of a structure that would contain itself. -/
def containsItself (type : TypeExpr) : Failure :=
  .structural ("nested structure `" ++ type.print ++ "` contains itself")

/-- Something else is said than that a structure would contain itself. -/
def Failure.Otherwise (e : Failure) : Prop := ∀ type, e ≠ containsItself type

/-- What ends in another way says something else. -/
theorem Failure.Otherwise.of_last {front back : String} {last : Char}
    (h : back.toList.getLast? = some last) (hlast : last ≠ 'f') :
    (Failure.structural (front ++ back)).Otherwise := by
  intro type hsame
  have htext : front ++ back = "nested structure `" ++ type.print ++ "` contains itself" := by
    unfold containsItself structural ofReport at hsame
    simpa using hsame
  have hends : (front ++ back).toList.getLast? = some 'f' := by
    rw [htext, String.toList_append, List.getLast?_append]
    rfl
  rw [String.toList_append, List.getLast?_append, h] at hends
  exact hlast (Option.some.inj hends)

theorem Failure.Otherwise.introspection (type text : String) :
    (Failure.introspection type text).Otherwise := by
  intro type hsame
  cases hsame

/-- What ends like a reason not to nest a type says something else. -/
theorem Failure.Otherwise.of_unnestable? {type : TypeExpr} {front reason : String}
    (h : unnestable? type = some reason) : (Failure.structural (front ++ reason)).Otherwise := by
  have hreason : ∃ last, reason.toList.getLast? = some last ∧ last ≠ 'f' := by
    unfold unnestable? at h
    cases hshape : type.shape with
    | path =>
        rw [hshape] at h
        dsimp only at h
        split at h
        case isTrue => cases h; exact ⟨'d', rfl, by decide⟩
        split at h
        case isTrue => cases h; exact ⟨'s', rfl, by decide⟩
        split at h
        case isTrue => cases h; exact ⟨'s', rfl, by decide⟩
        cases h
    | other => rw [hshape] at h; cases h; exact ⟨'d', rfl, by decide⟩
    | _ => rw [hshape] at h; cases h; exact ⟨'s', rfl, by decide⟩
  obtain ⟨last, hends, hlast⟩ := hreason
  exact .of_last hends hlast

section

variable {env : Setting} {P : Failure → Prop} {owner : Owner} {f : FieldDecl}
  (hsaid : ∀ text, (Failure.structural text).Otherwise → P (.structural text))

include hsaid

theorem inlineConversion_failsAs {inline : InlineConversion} :
    (inlineConversion owner f inline).FailsAs P := by
  cases inline with
  | provided path storage => exact .pure _
  | ordinal variants =>
      exact .bind (.require fun _ => hsaid _ (.of_last rfl (by decide))) fun _ => .pure _

/-- What goes wrong with a field is said of the field, or went wrong with the
reference that it is or with the structure that is nested in it. -/
theorem resolveField_failsAs {nest : TypeExpr → Step Structure}
    (hrefer : ∀ request, owner = .model request → (resolveReference env request f).FailsAs P)
    (hnest : ∀ inner, verdict? env.locator owner f = some (.nested inner) →
      (nest inner).FailsAs P) :
    (resolveField env nest owner f).FailsAs P := by
  unfold resolveField
  dsimp only
  split
  case isTrue =>
    -- a reference, which a structure may not hold
    split
    case h_1 request => exact .bind (hrefer request rfl) fun _ => .pure _
    case h_2 => exact .reject (hsaid _ (.of_last rfl (by decide)))
  case isFalse hreference =>
    refine .bind_of (.require fun _ => hsaid _ (.of_last rfl (by decide))) fun _ _ _ hnull => ?_
    obtain ⟨hnull, -⟩ := Step.require_eq_ok.1 hnull
    split
    case h_1 => exact .pure _
    case h_2 hmapper =>
    split
    case h_1 => exact .pure _
    case h_2 hnative =>
    split
    case h_1 => exact .bind (inlineConversion_failsAs hsaid) fun _ => .pure _
    case h_2 hinline =>
    split
    case h_1 =>
      exact .bind (.require fun _ => hsaid _ (.of_last rfl (by decide))) fun _ => .pure _
    case h_2 hadapter =>
    split
    case h_1 reason hreason =>
      refine .bind_of (.reject (hsaid _ (.of_unnestable? hreason))) ?_
      exact fun _ _ _ h => absurd h Step.reject_ne_ok
    case h_2 hreason =>
      refine .bind (hnest _ ?_) fun _ => .pure _
      unfold verdict?
      rw [if_neg hreference, hnull, Option.eq_none_iff_forall_ne_some.2 hmapper,
        Option.eq_none_iff_forall_ne_some.2 hnative, Option.eq_none_iff_forall_ne_some.2 hinline,
        Option.eq_none_iff_forall_ne_some.2 hadapter, Option.eq_none_iff_forall_ne_some.2 hreason]
      rfl

/-- What goes wrong with a part is said of the part. -/
theorem partOf_failsAs {type : TypeExpr} (x : Resolved) : (partOf type f x).FailsAs P := by
  cases x with
  | reference r => exact .reject (hsaid _ (.of_last rfl (by decide)))
  | native storage => exact .pure _
  | mapped conversion => exact .pure _
  | adapted adapter =>
      exact .bind (.require fun _ => hsaid _ (.of_last rfl (by decide))) fun _ => .pure _
  | nested s =>
      exact .bind (.require fun _ => hsaid _ (.of_last rfl (by decide))) fun _ => .pure _

end

-- ======================================================= plain failures

/-- A failure as it arises: a single link, which says that the models make
no schema or that a type cannot be described. -/
structure Failure.Plain (e : Failure) : Prop where
  single : e.cause? = none
  kind : e.isStructural = true ∨ e.isIntrospection = true

theorem Failure.plain_structural (text : String) : (Failure.structural text).Plain :=
  ⟨rfl, Or.inl rfl⟩

theorem Failure.plain_introspection (type text : String) :
    (Failure.introspection type text).Plain :=
  ⟨rfl, Or.inr rfl⟩

/-- What went wrong is the root of a plain failure. -/
theorem Failure.Plain.root_eq {e : Failure} (h : e.Plain) : e.root = e := by
  cases e with
  | link report cause =>
      obtain rfl : cause = none := h.single
      rfl
  | taken outer cause =>
      obtain rfl : cause = none := h.single
      rfl

/-- All failures of a step are plain. -/
def Step.Plain {α : Type} (step : Step α) : Prop := ∀ p e, step p = .error e → e.Plain

namespace Step.Plain

variable {α β : Type}

theorem pure (a : α) : Step.Plain (Pure.pure a : Step α) := FailsAs.pure a

theorem bind {x : Step α} {f : α → Step β} (hx : x.Plain) (hf : ∀ a, (f a).Plain) :
    (x >>= f).Plain := FailsAs.bind hx hf

theorem get : Step.Plain (MonadState.get : Step Progress) := FailsAs.get

theorem change (f : Progress → Progress) : Step.Plain (modify f : Step Unit) := FailsAs.change f

theorem reject (text : String) : (Step.reject text : Step α).Plain :=
  FailsAs.reject (Failure.plain_structural text)

theorem require (condition : Bool) (text : String) : (Step.require condition text).Plain :=
  FailsAs.require fun _ => Failure.plain_structural text

theorem mapM {f : α → Step β} {l : List α} (h : ∀ a ∈ l, (f a).Plain) : (l.mapM f).Plain :=
  FailsAs.mapM h

theorem forM {f : α → Step Unit} {l : List α} (h : ∀ a ∈ l, (f a).Plain) : (l.forM f).Plain :=
  FailsAs.forM h

end Step.Plain

section

variable {env : Setting}

/-- The answers a run is given fail plainly. -/
def Setting.AnswersPlainly (env : Setting) : Prop :=
  ∀ asked type e, env.answers asked type = .error e → e.Plain

variable (hanswers : env.AnswersPlainly)

include hanswers

theorem Setting.ask_plain (type : TypeExpr) : (env.ask type).Plain :=
  Setting.ask_failsAs fun asked => hanswers asked type

theorem referencedKey_plain (request : TableRequest) (f : FieldDecl) (id : TableId) :
    (referencedKey env request f id).Plain := by
  refine .bind .get fun p => ?_
  split
  · exact .pure _
  · split
    · exact .pure _
    · refine .bind (env.ask_plain hanswers _) fun fields => ?_
      split
      · exact .pure _
      · exact .bind (.change _) fun _ => .pure _

theorem resolveReference_plain (request : TableRequest) (f : FieldDecl) :
    (resolveReference env request f).Plain := by
  unfold resolveReference
  dsimp only
  split
  case h_2 => exact .reject _
  refine .bind (.require _ _) fun _ => ?_
  split
  case h_2 => exact .reject _
  split
  case h_2 => exact .reject _
  refine .bind (referencedKey_plain hanswers _ _ _) fun key => ?_
  split
  case h_2 => exact .reject _
  refine .bind (.require _ _) fun _ => ?_
  split
  · exact .pure _
  · exact .reject _

/-- A field fails plainly if nested structures do. -/
theorem resolveField_plain {nest : TypeExpr → Step Structure} (hnest : ∀ type, (nest type).Plain)
    (owner : Owner) (f : FieldDecl) : (resolveField env nest owner f).Plain :=
  resolveField_failsAs (fun text _ => Failure.plain_structural text)
    (fun request _ => resolveReference_plain hanswers request f) fun inner _ => hnest inner

omit hanswers in
theorem partOf_plain (type : TypeExpr) (f : FieldDecl) (x : Resolved) :
    (partOf type f x).Plain :=
  partOf_failsAs (fun text _ => Failure.plain_structural text) x

/-- Whatever goes wrong inside of a structure, at any depth, is passed on
as it is. -/
theorem structureWithin_plain (room : Nat) (enclosing : List TypeExpr) (type : TypeExpr) :
    (structureWithin env room enclosing type).Plain := by
  -- on the room, which is less for the structures nested in this one
  induction room generalizing enclosing type with
  | zero =>
      unfold structureWithin
      refine .bind .get fun p => ?_
      split
      · exact .pure _
      refine .bind (.require _ _) fun _ => ?_
      refine .bind (env.ask_plain hanswers _) fun fields => ?_
      exact .bind (.require _ _) fun _ => .reject _
  | succ room ih =>
      unfold structureWithin
      refine .bind .get fun p => ?_
      split
      · exact .pure _
      refine .bind (.require _ _) fun _ => ?_
      refine .bind (env.ask_plain hanswers _) fun fields => ?_
      refine .bind (.require _ _) fun _ => ?_
      refine .bind (.mapM fun f _ => ?_) fun parts => .bind (.change _) fun _ => .pure _
      exact .bind (resolveField_plain hanswers (ih (type :: enclosing)) _ f) fun x =>
        partOf_plain type f x

theorem structureOf_plain (type : TypeExpr) : (structureOf env type).Plain :=
  structureWithin_plain hanswers env.room [] type

theorem tableField_plain (request : TableRequest) (f : FieldDecl) :
    (tableField env request f).Plain := by
  refine .bind (resolveField_plain hanswers (structureOf_plain hanswers) _ f) fun x => ?_
  dsimp only
  split
  · exact .bind (.require _ _) fun _ => .bind (.require _ _) fun _ => .pure _
  · exact .bind (.require _ _) fun _ => .pure _

end

theorem checkPrimaryKey_plain (request : TableRequest) (fields : List TableField) :
    (checkPrimaryKey request fields).Plain := by
  unfold checkPrimaryKey
  split
  · exact .pure _
  · exact .bind (.require _ _) fun _ => .require _ _
  · exact .reject _

theorem checkColumns_plain (fields : List TableField) : (checkColumns fields).Plain := by
  unfold checkColumns
  split
  · exact .pure _
  · exact .reject _

theorem checkBridge_plain (request : TableRequest) (fields : List TableField) :
    (checkBridge request fields).Plain := by
  unfold checkBridge
  split
  · exact .pure _
  · refine .forM fun name _ => ?_
    split
    · exact .require _ _
    · exact .reject _

theorem checkTable_plain (request : TableRequest) (fields : List TableField) :
    (checkTable request fields).Plain :=
  .bind (.require _ _) fun _ => .bind (checkPrimaryKey_plain request fields) fun _ =>
    .bind (checkColumns_plain fields) fun _ => checkBridge_plain request fields

end Rowsmith

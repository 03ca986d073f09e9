/-
Building nested structures ends.

The structure of a type is made from those of other types, and neither the
type nor the description gets smaller on the way. What does is the number of
types that can still be opened: a type that is under construction is not
opened again, and only finitely many types can be described at all.

# The bound

The definition takes a number, how many more structures may be opened, and
fails when it is used up. Any number will do that leaves room for every type
that is described and not yet under construction: with more room the
definition does the same (`structureWithin_stable`). So it satisfies the
equation of the recursion that has no bound (`structureWithin_eq_step`), and
the calls of that recursion are well-founded (`opens_wellFounded`). Nothing
here asks that a type is described alike each time.
-/
import Rowsmith.Proofs.Resolve.Nesting

namespace Rowsmith

/-- After a step, only what it can have led to matters. -/
theorem Step.bind_congr {α β : Type} {x : Step α} {f g : α → Step β} {p : Progress}
    (h : ∀ a q, x p = .ok (a, q) → f a q = g a q) : (x >>= f) p = (x >>= g) p := by
  show Except.bind (x p) (fun r => f r.1 r.2) = Except.bind (x p) fun r => g r.1 r.2
  cases hx : x p with
  | error e => rfl
  | ok r => exact h r.1 r.2 hx

section

variable {env : Setting} {declared enclosing : List TypeExpr} {type : TypeExpr} {room : Nat}

-- ============================================================ recursion

/-- How the structure of a type is resolved, given how those are that are
nested in it. They are resolved with one more type under construction. -/
def structureStep (env : Setting) (nest : List TypeExpr → TypeExpr → Step Structure)
    (enclosing : List TypeExpr) (type : TypeExpr) : Step Structure := do
  if let some known := (← get).structures.find? fun s => s.type = type then
    return known
  Step.require (!enclosing.contains type)
    ("nested structure `" ++ type.print ++ "` contains itself")
  let fields ← env.ask type
  Step.require (!fields.isEmpty) ("nested structure `" ++ type.print ++ "` has no fields")
  let parts ← fields.mapM (resolvePart env (nest (type :: enclosing)) type)
  let built : Structure := ⟨type, parts⟩
  modify fun p => { p with structures := p.structures ++ [built] }
  return built

theorem structureWithin_succ (env : Setting) (room : Nat) :
    structureWithin env (room + 1) = structureStep env (structureWithin env room) := by
  funext enclosing type
  rw [structureWithin]
  rfl

/-- Nested structures are resolved only if the type is not under construction
and can be described. -/
theorem structureStep_congr {nest nest' : List TypeExpr → TypeExpr → Step Structure}
    (h : type ∉ enclosing → (∃ asked fields, env.answers asked type = .ok fields) →
      nest (type :: enclosing) = nest' (type :: enclosing)) :
    structureStep env nest enclosing type = structureStep env nest' enclosing type := by
  funext p
  unfold structureStep
  rw [Step.get_bind, Step.get_bind]
  cases p.structures.find? fun s => s.type = type with
  | some known => rfl
  | none =>
      refine Step.bind_congr fun _ q hrequire => Step.bind_congr fun fields q' hask => ?_
      obtain ⟨hfresh, rfl⟩ := Step.require_eq_ok.1 hrequire
      obtain ⟨hanswer, -⟩ := Setting.ask_eq_ok.1 hask
      rw [h (by simpa using hfresh) ⟨q.asked, fields, hanswer⟩]

/-- Without any room it makes no difference how nested structures would be
resolved, if there is no way to get to them. -/
theorem structureWithin_zero {nest : List TypeExpr → TypeExpr → Step Structure}
    (h : type ∉ enclosing → ∀ asked fields, env.answers asked type ≠ .ok fields) :
    structureWithin env 0 enclosing type = structureStep env nest enclosing type := by
  funext p
  unfold structureWithin structureStep
  rw [Step.get_bind, Step.get_bind]
  cases p.structures.find? fun s => s.type = type with
  | some known => rfl
  | none =>
      refine Step.bind_congr fun _ q hrequire => Step.bind_congr fun fields q' hask => ?_
      obtain ⟨hfresh, rfl⟩ := Step.require_eq_ok.1 hrequire
      obtain ⟨hanswer, -⟩ := Setting.ask_eq_ok.1 hask
      exact absurd hanswer (h (by simpa using hfresh) q.asked fields)

/-- The types under construction are distinct, and all of them can be
described. -/
structure UnderConstruction (declared enclosing : List TypeExpr) : Prop where
  distinct : enclosing.Nodup
  declared : enclosing ⊆ declared

theorem UnderConstruction.nil : UnderConstruction declared [] where
  distinct := List.nodup_nil
  declared := List.nil_subset _

theorem UnderConstruction.cons (h : UnderConstruction declared enclosing)
    (hfresh : type ∉ enclosing) (htype : type ∈ declared) :
    UnderConstruction declared (type :: enclosing) where
  distinct := List.nodup_cons.2 ⟨hfresh, h.distinct⟩
  declared := List.cons_subset.2 ⟨htype, h.declared⟩

theorem UnderConstruction.length_le (h : UnderConstruction declared enclosing) :
    enclosing.length ≤ declared.length :=
  (List.subperm_of_subset h.distinct h.declared).length_le

/-- Where there is room for all types that can still be opened, more room
makes no difference. -/
theorem structureWithin_stable
    (hdeclared : ∀ asked type fields, env.answers asked type = .ok fields → type ∈ declared)
    (henclosing : UnderConstruction declared enclosing)
    (hroom : declared.length ≤ room + enclosing.length) :
    structureWithin env (room + 1) enclosing type = structureWithin env room enclosing type := by
  -- on the room: a structure that is opened takes one from it and is one more
  -- under construction
  induction room generalizing enclosing type with
  | zero =>
      rw [structureWithin_succ]
      refine (structureWithin_zero fun hfresh asked fields hanswer => ?_).symm
      have hlength := (henclosing.cons hfresh (hdeclared asked type fields hanswer)).length_le
      rw [List.length_cons] at hlength
      omega
  | succ room ih =>
      rw [structureWithin_succ env room, structureWithin_succ env (room + 1)]
      refine structureStep_congr fun hfresh hanswer => ?_
      obtain ⟨asked, fields, hanswer⟩ := hanswer
      funext inner
      apply ih (henclosing.cons hfresh (hdeclared asked type fields hanswer))
      rw [List.length_cons]
      omega

/-- A structure is resolved from those that are nested in it, with no bound
on how many are opened. -/
theorem structureWithin_eq_step
    (hdeclared : ∀ asked type fields, env.answers asked type = .ok fields → type ∈ declared)
    (henclosing : UnderConstruction declared enclosing)
    (hroom : declared.length ≤ room + enclosing.length) :
    structureWithin env room enclosing type =
      structureStep env (structureWithin env room) enclosing type := by
  rw [← structureWithin_succ, structureWithin_stable hdeclared henclosing hroom]

end

-- ================================================================ calls

/-- A structure that is asked for while others are under construction, the
innermost of them first. -/
structure NestCall where
  enclosing : List TypeExpr
  type : TypeExpr

section

variable {describe : TypeExpr → Except Failure (List FieldDecl)} {locator : Locator}
  {declared : List TypeExpr} {call call' : NestCall} {type : TypeExpr}

/-- A call opens another: its type is not under construction, and a field of
it is stored as the structure that the other asks for. -/
structure NestCall.Opens (describe : TypeExpr → Except Failure (List FieldDecl))
    (locator : Locator) (call call' : NestCall) : Prop where
  fresh : call.type ∉ call.enclosing
  needs : (Owner.structured call.type).Needs describe locator call'.type
  enclosing : call'.enclosing = call.type :: call.enclosing

/-- Only a type that is described opens calls. -/
theorem NestCall.Opens.described (h : call.Opens describe locator call') :
    ∃ fields, describe call.type = .ok fields := by
  obtain ⟨fields, -, hfields, -, -⟩ := h.needs
  exact ⟨fields, hfields⟩

/-- The types that can still be opened. -/
def NestCall.free (declared : List TypeExpr) (call : NestCall) : List TypeExpr :=
  declared.filter fun type => !call.enclosing.contains type

/-- With each call that is opened, one type less can be. -/
theorem NestCall.Opens.free_lt
    (hdeclared : ∀ type fields, describe type = .ok fields → type ∈ declared)
    (h : call.Opens describe locator call') :
    (call'.free declared).length < (call.free declared).length := by
  have hfree : call'.free declared = (call.free declared).filter (· != call.type) := by
    unfold NestCall.free
    rw [h.enclosing, List.filter_filter]
    refine List.filter_congr fun type _ => ?_
    rw [List.contains_cons, Bool.not_or]
    rfl
  rw [hfree, List.length_filter_lt_length_iff_exists]
  obtain ⟨fields, hfields⟩ := h.described
  refine ⟨call.type, List.mem_filter.2 ⟨hdeclared _ fields hfields, ?_⟩, by simp⟩
  simpa using h.fresh

/-- No chain of calls goes on for ever. -/
theorem opens_wellFounded
    (hdeclared : ∀ type fields, describe type = .ok fields → type ∈ declared) :
    WellFounded fun call' call => NestCall.Opens describe locator call call' :=
  Subrelation.wf (fun h => h.free_lt hdeclared)
    (measure fun call : NestCall => (call.free declared).length).wf

/-- The calls that building the structure of a type leads to. -/
def NestCall.MadeFor (describe : TypeExpr → Except Failure (List FieldDecl)) (locator : Locator)
    (type : TypeExpr) : NestCall → Prop :=
  Relation.ReflTransGen (NestCall.Opens describe locator) ⟨[], type⟩

/-- What is under construction at a call is distinct and described. -/
theorem NestCall.MadeFor.underConstruction
    (hdeclared : ∀ type fields, describe type = .ok fields → type ∈ declared)
    (h : NestCall.MadeFor describe locator type call) :
    UnderConstruction declared call.enclosing := by
  induction h with
  | refl => exact .nil
  | tail _ hopens ih =>
      obtain ⟨fields, hfields⟩ := hopens.described
      rw [hopens.enclosing]
      exact ih.cons hopens.fresh (hdeclared _ fields hfields)

/-- A call asks for a type that the first one needs, -/
theorem NestCall.MadeFor.reaches (h : NestCall.MadeFor describe locator type call) :
    Reaches describe locator type call.type := by
  induction h with
  | refl => exact .refl
  | tail _ hopens ih => exact ih.tail hopens.needs

/-- and that all types under construction need. -/
theorem NestCall.MadeFor.needed (h : NestCall.MadeFor describe locator type call) :
    ∀ outer ∈ call.enclosing, Relation.TransGen
      (fun type inner => (Owner.structured type).Needs describe locator inner) outer call.type := by
  induction h with
  | refl => exact fun _ houter => nomatch houter
  | tail _ hopens ih =>
      rw [hopens.enclosing]
      refine List.forall_mem_cons.2 ⟨.single hopens.needs, fun outer houter => ?_⟩
      exact (ih outer houter).tail hopens.needs

end

end Rowsmith

/-
Arguments that are listed in attributes.

The arguments of a structure or field are written in one attribute or in
several, with commas between them, and a comma may stand behind the last
(`Listed`, `LaidOut`). They are read one after the other into one record, by
a parser that sees all that is left of the attribute. If that parser is
local, an argument does to the record what it does where it is all that is
listed (`alone`), and reading the attributes is a fold over the arguments:
how they are distributed does not matter (`attributes_eq_foldlM`).

A record takes an argument if it can be read and fits the arguments before
it. If that is all a step does (`Recording`), the run takes the arguments if
all can be read and fit together, and it says so of any order in which they
are written (`Recording.attributes`).
-/
import Rowsmith.Proofs.Attempt
import Rowsmith.Proofs.Source.KeyPaths
import Rowsmith.Source.Options

namespace Rowsmith.Source

open Rowsmith.Source.Parser

-- ============================================================== layouts

/-- The tokens list arguments. An argument ends before the first comma where
no angle bracket is open. -/
inductive Listed : List (List TokenTree) → List TokenTree → Prop
  | none : Listed [] []
  | last {arg : List TokenTree} {unclosed : Nat} :
      arg ≠ [] → Leaves 0 unclosed arg → Listed [arg] arg
  -- If no argument follows, the comma is one behind the last.
  | more {arg : List TokenTree} {args : List (List TokenTree)} {tokens : List TokenTree}
      {pos : Position} {joint : Bool} :
      arg ≠ [] → Leaves 0 0 arg → Listed args tokens →
      Listed (arg :: args) (arg ++ .punct pos ',' joint :: tokens)

/-- The arguments are distributed over those attributes that are the tool's
own. -/
inductive LaidOut : List (List TokenTree) → List Attribute → Prop
  | none : LaidOut [] []
  | own {listed args : List (List TokenTree)} {tokens : List TokenTree} {pos closed : Position}
      {attrs : List Attribute} :
      Listed listed tokens → LaidOut args attrs →
      LaidOut (listed ++ args) (⟨pos, [attributeName], .listed tokens closed⟩ :: attrs)
  | other {args : List (List TokenTree)} {attr : Attribute} {attrs : List Attribute} :
      attr.path ≠ [attributeName] → LaidOut args attrs → LaidOut args (attr :: attrs)

theorem ownAttributes_own {pos : Position} {body : AttributeBody} {attrs : List Attribute} :
    ownAttributes (⟨pos, [attributeName], body⟩ :: attrs) =
      ⟨pos, [attributeName], body⟩ :: ownAttributes attrs :=
  List.filter_cons_of_pos (decide_eq_true rfl)

theorem ownAttributes_other {attr : Attribute} {attrs : List Attribute}
    (h : attr.path ≠ [attributeName]) : ownAttributes (attr :: attrs) = ownAttributes attrs :=
  List.filter_cons_of_neg (by simpa using h)

/-- The tokens of arguments without the commas in them. -/
def withoutCommas (args : List (List TokenTree)) : List TokenTree :=
  args.flatten.filter fun token => !token.isComma

theorem Listed.filter_comma {args : List (List TokenTree)} {tokens : List TokenTree}
    (h : Listed args tokens) :
    tokens.filter (fun token => !token.isComma) = withoutCommas args := by
  unfold withoutCommas
  induction h with
  | none => rfl
  | last => rw [List.flatten_cons, List.flatten_nil, List.append_nil]
  | more _ _ _ ih =>
      rw [List.flatten_cons, List.filter_append, List.filter_append, ← ih,
        List.filter_cons_of_neg (by simp [TokenTree.isComma])]

theorem sizeAll_perm {tokens tokens' : List TokenTree} (h : tokens.Perm tokens') :
    TokenTree.sizeAll tokens = TokenTree.sizeAll tokens' := by
  induction h with
  | nil => rfl
  | cons token _ ih => simp only [TokenTree.sizeAll, ih]
  | swap token token' rest =>
      simp only [TokenTree.sizeAll]
      omega
  | trans _ _ ih ih' => exact ih.trans ih'

theorem rulesFor_perm {tokens tokens' : List TokenTree} (h : tokens.Perm tokens') :
    rulesFor tokens = rulesFor tokens' := by
  rw [rulesFor, rulesFor, sizeAll_perm h]

/-- The rules for what is written in attributes depend on the arguments
alone. -/
theorem LaidOut.argumentRules_eq {args : List (List TokenTree)} {attrs : List Attribute}
    (h : LaidOut args attrs) : argumentRules attrs = rulesFor (withoutCommas args) := by
  refine congrArg rulesFor ?_
  induction h with
  | none => rfl
  | own hlisted _ ih =>
      rw [ownAttributes_own, List.flatMap_cons, ih, withoutCommas, withoutCommas,
        List.flatten_append, List.filter_append]
      exact congrArg (· ++ _) hlisted.filter_comma
  | other hpath _ ih => rw [ownAttributes_other hpath, ih]

-- ================================================================ a list

variable {α : Type}

/-- What a parser has given, if nothing is left over. -/
def accepted (result : Except SyntaxError (α × ParseState)) : Option α :=
  match result with
  | .ok (a, s) => if s.leftover.isNone && s.rest.isEmpty then some a else none
  | .error _ => none

theorem run_toOption (p : Parser α) (tokens : List TokenTree) (scope : Position) :
    (p.run tokens scope).toOption = accepted (p (.start tokens scope)) := by
  show ((p (.start tokens scope)) >>= _ : Except SyntaxError α).toOption = _
  cases p (.start tokens scope) with
  | error e => rfl
  | ok result =>
      obtain ⟨a, rest, scope, written, leftover⟩ := result
      cases leftover <;> cases rest <;> rfl

/-- What an argument makes of a record where it is all that is listed. -/
def alone (argument : α → Parser α) (a : α) (arg : List TokenTree) : Option α :=
  ((argument a).run arg .start).toOption

/-- What is left of an argument does not begin with a comma. -/
theorem punct_comma_of_leaves {token : TokenTree} {rest after : List TokenTree} {unclosed : Nat}
    (h : Leaves 0 unclosed (token :: rest)) :
    Lookahead.punct "," (token :: (rest ++ after)) = false := by
  refine Bool.eq_false_iff.2 fun hpunct => ?_
  obtain ⟨pos, joint, rest', heq, -, -⟩ := exists_of_punctChars hpunct
  obtain ⟨rfl, -⟩ := List.cons.inj heq
  cases h

variable (argument : α → Parser α)

/-- A round of the loop where something is left. -/
theorem iterateWithin_argument (bound : Nat) (a : α) {s : ParseState} (h : s.rest ≠ []) :
    iterateWithin (argumentStep argument) (bound + 1) a s = match argument a s with
      | .error e => .error e
      | .ok (b, t) => if t.rest.isEmpty then .ok (b, t)
          else (takePunct "," >>= fun _ => iterateWithin (argumentStep argument) bound b) t := by
  obtain ⟨_ | ⟨token, rest⟩, scope, written, leftover⟩ := s
  · exact absurd rfl h
  simp only [iterateWithin, argumentStep, bind_apply, atEnd, List.isEmpty_cons,
    Bool.false_eq_true, if_false]
  cases argument a ⟨token :: rest, scope, written, leftover⟩ with
  | error e => rfl
  | ok result =>
      obtain ⟨b, t⟩ := result
      dsimp only
      cases t.rest.isEmpty with
      | true => rfl
      | false =>
          simp only [Bool.false_eq_true, if_false, bind_apply]
          cases takePunct "," t <;> rfl

variable [hlocal : ∀ a, LocalIn (Leaves 0) (argument a)]

/-- A round in front of an argument: it fails, as the argument does on its
own, or the argument is read to its end. -/
theorem argument_cases {arg : List TokenTree} {unclosed : Nat} (hne : arg ≠ [])
    (harg : Leaves 0 unclosed arg) (a : α) :
    (alone argument a arg = none ∧ ∀ (c : Surroundings unclosed) (bound : Nat), ∃ e,
      iterateWithin (argumentStep argument) (bound + 1) a (c.state (.of arg)) = .error e) ∨
    ∃ b noted surplus, alone argument a arg = (if surplus.isNone then some b else none) ∧
      ∀ c : Surroundings unclosed,
        argument a (c.state (.of arg)) = .ok (b, c.state ⟨[], noted, surplus⟩) := by
  have hrest : ∀ c : Surroundings unclosed, (c.state (.of arg)).rest ≠ [] :=
    fun c => List.append_ne_nil_of_left_ne_nil hne c.after
  have halone : alone argument a arg = accepted
      (argument a ((Surroundings.none .start : Surroundings unclosed).state (.of arg))) := by
    rw [alone, run_toOption]
    simp only [ParseState.start, Surroundings.state, Surroundings.none, View.of, List.append_nil]
    rfl
  obtain hfail | ⟨b, ⟨rest, noted, surplus⟩, hw, -, -, hok⟩ :=
    (hlocal a).keeps unclosed (.of arg) harg
  · refine .inl ⟨?_, fun c bound => ?_⟩
    · obtain ⟨e, he⟩ := hfail (.none .start)
      rw [halone, he]
      rfl
    · obtain ⟨e, he⟩ := hfail c
      exact ⟨e, by rw [iterateWithin_argument argument bound a (hrest c), he]⟩
  cases rest with
  | nil =>
      refine .inr ⟨b, noted, surplus, ?_, hok⟩
      rw [halone, hok]
      cases surplus <;> rfl
  | cons token rest =>
      refine .inl ⟨?_, fun c bound => ?_⟩
      · rw [halone, hok]
        cases surplus <;> rfl
      · have hcomma : Lookahead.punct "," (token :: (rest ++ c.after)) = false :=
          punct_comma_of_leaves hw
        rw [iterateWithin_argument argument bound a (hrest c), hok]
        simp [Surroundings.state, bind_apply, takePunct_eq, hcomma]

/-- A round takes the argument, and the further arguments are taken if they
are where it has stopped. -/
theorem accepted_round {arg : List TokenTree} {args : List (List TokenTree)} {unclosed : Nat}
    (hne : arg ≠ []) (harg : Leaves 0 unclosed arg) (c : Surroundings unclosed) (bound : Nat)
    (hnext : ∀ (b : α) (t : ParseState), t.rest = c.after → t.scope = c.scope →
      accepted (if t.rest.isEmpty then .ok (b, t)
        else (takePunct "," >>= fun _ => iterateWithin (argumentStep argument) bound b) t) =
      if t.leftover.isNone then args.foldlM (alone argument) b else none) (a : α) :
    accepted (iterateWithin (argumentStep argument) (bound + 1) a (c.state (.of arg))) =
      if c.leftover.isNone then (arg :: args).foldlM (alone argument) a else none := by
  obtain ⟨halone, hfail⟩ | ⟨b, noted, surplus, halone, hok⟩ := argument_cases argument hne harg a
  · obtain ⟨e, he⟩ := hfail c bound
    rw [he, List.foldlM_cons, halone]
    cases c.leftover <;> rfl
  · have hrest : (c.state (.of arg)).rest ≠ [] := List.append_ne_nil_of_left_ne_nil hne c.after
    rw [iterateWithin_argument argument bound a hrest, hok, List.foldlM_cons, halone]
    refine (hnext b _ rfl rfl).trans ?_
    obtain ⟨after, hclosing, scope, written, leftover⟩ := c
    cases leftover <;> cases surplus <;> rfl

/-- Reading what is listed is a fold over the arguments. -/
theorem iterateWithin_listed {args : List (List TokenTree)} {tokens : List TokenTree}
    (h : Listed args tokens) (bound : Nat) (a : α) (scope : Position) (written : List TokenTree)
    (leftover : Option SyntaxError) (hbound : tokens.length < bound) :
    accepted (iterateWithin (argumentStep argument) bound a ⟨tokens, scope, written, leftover⟩) =
      if leftover.isNone then args.foldlM (alone argument) a else none := by
  obtain ⟨bound, rfl⟩ := Nat.exists_eq_add_one.2 (Nat.zero_lt_of_lt hbound)
  induction h generalizing bound a written leftover with
  | none => cases leftover <;> rfl
  | @last arg unclosed hne harg =>
      let c : Surroundings unclosed := ⟨[], .nothing, scope, written, leftover⟩
      have hstate : c.state (.of arg) = ⟨arg, scope, written, leftover⟩ := by
        simp [c, Surroundings.state, View.of]
      rw [← hstate]
      refine accepted_round argument hne harg c bound (fun b t ht _ => ?_) a
      obtain ⟨rest, scope', written', leftover'⟩ := t
      obtain rfl : rest = [] := ht
      cases leftover' <;> rfl
  | @more arg args tokens pos joint hne harg _ ih =>
      let c : Surroundings 0 := ⟨.punct pos ',' joint :: tokens, .comma, scope, written, leftover⟩
      have hstate : c.state (.of arg) =
          ⟨arg ++ .punct pos ',' joint :: tokens, scope, written, leftover⟩ := by
        simp [c, Surroundings.state, View.of]
      rw [← hstate]
      refine accepted_round argument hne harg c bound (fun b t ht hscope => ?_) a
      obtain ⟨rest, scope', written', leftover'⟩ := t
      obtain rfl : rest = .punct pos ',' joint :: tokens := ht
      obtain rfl : scope' = scope := hscope
      have hlater : tokens.length < bound := by
        simp only [List.length_append, List.length_cons] at hbound
        omega
      obtain ⟨bound, rfl⟩ := Nat.exists_eq_add_one.2 (Nat.zero_lt_of_lt hlater)
      exact ih _ _ _ bound hlater

-- =========================================================== attributes

theorem attributeArguments_listed {args : List (List TokenTree)} {tokens : List TokenTree}
    (h : Listed args tokens) (a : α) (pos closed : Position) :
    (attributeArguments argument a ⟨pos, [attributeName], .listed tokens closed⟩).toOption =
      args.foldlM (alone argument) a := by
  show ((argumentList argument a).run tokens closed).toOption = _
  rw [run_toOption]
  exact iterateWithin_listed argument h _ a closed [] none (Nat.lt_succ_self _)

/-- Reading the attributes is a fold over the arguments, however these are
distributed. -/
theorem attributes_eq_foldlM {args : List (List TokenTree)} {attrs : List Attribute}
    (h : LaidOut args attrs) (a : α) :
    ((ownAttributes attrs).foldlM (attributeArguments argument) a).toOption =
      args.foldlM (alone argument) a := by
  induction h generalizing a with
  | none => rfl
  | own hlisted _ ih =>
      rw [ownAttributes_own, List.foldlM_cons, Attempt.toOption_bind,
        attributeArguments_listed argument hlisted, List.foldlM_append]
      exact bind_congr ih
  | other hpath _ ih =>
      rw [ownAttributes_other hpath]
      exact ih a

-- ============================================================ recording

theorem Listed.leaves {args : List (List TokenTree)} {tokens : List TokenTree}
    (h : Listed args tokens) : ∀ arg ∈ args, ∃ unclosed, Leaves 0 unclosed arg := by
  induction h with
  | none => exact fun _ h => absurd h List.not_mem_nil
  | last _ harg => exact List.forall_mem_singleton.2 ⟨_, harg⟩
  | more _ harg _ ih => exact List.forall_mem_cons.2 ⟨⟨0, harg⟩, ih⟩

theorem LaidOut.leaves {args : List (List TokenTree)} {attrs : List Attribute}
    (h : LaidOut args attrs) : ∀ arg ∈ args, ∃ unclosed, Leaves 0 unclosed arg := by
  induction h with
  | none => exact fun _ h => absurd h List.not_mem_nil
  | own hlisted _ ih => exact List.forall_mem_append.2 ⟨hlisted.leaves, ih⟩
  | other _ _ ih => exact ih

/-- What a record has taken says which arguments may follow: it takes one
that can be read and fits those before, and refuses any other. -/
structure Recording {σ : Type} (read? : List TokenTree → Option σ) (Fits : List σ → Prop)
    (Records : α → List σ → Prop) : Prop where
  step : ∀ {a : α} {before : List σ} {arg : List TokenTree} {unclosed : Nat},
    Leaves 0 unclosed arg → Records a before →
    (∃ x b, read? arg = some x ∧ alone argument a arg = some b ∧ Records b (before ++ [x])) ∨
    (alone argument a arg = none ∧ ∀ x, read? arg = some x → ¬ Fits (before ++ [x]))
  before : ∀ {said more : List σ}, Fits (said ++ more) → Fits said

namespace Recording

variable {argument} {σ : Type} {read? : List TokenTree → Option σ} {Fits : List σ → Prop}
  {Records : α → List σ → Prop}

omit hlocal in
/-- A record takes the arguments of a list, or they cannot all be read or do
not fit together. -/
theorem run (h : Recording argument read? Fits Records) {args : List (List TokenTree)}
    (hargs : ∀ arg ∈ args, ∃ unclosed, Leaves 0 unclosed arg) {a : α} {before : List σ}
    (ha : Records a before) :
    (∃ said b, args.map read? = said.map some ∧ args.foldlM (alone argument) a = some b ∧
      Records b (before ++ said)) ∨
    (args.foldlM (alone argument) a = none ∧
      ∀ said, args.map read? = said.map some → ¬ Fits (before ++ said)) := by
  induction args generalizing a before with
  | nil => exact .inl ⟨[], a, rfl, rfl, by rwa [List.append_nil]⟩
  | cons arg args ih =>
      obtain ⟨⟨unclosed, harg⟩, hargs⟩ := List.forall_mem_cons.1 hargs
      rw [List.foldlM_cons, List.map_cons]
      obtain ⟨x, b, hx, hb, hrecords⟩ | ⟨hnone, hnot⟩ := h.step harg ha
      · rw [hx, hb]
        obtain ⟨said, b', hsaid, hfold, hrecords'⟩ | ⟨hfold, hnot⟩ := ih hargs hrecords
        · refine .inl ⟨x :: said, b', by rw [hsaid]; rfl, hfold, ?_⟩
          rwa [List.append_assoc] at hrecords'
        · refine .inr ⟨hfold, fun said hsaid => ?_⟩
          obtain ⟨y, said, rfl, hy, hrest⟩ := List.map_eq_cons_iff.1 hsaid.symm
          obtain rfl := Option.some.inj hy
          have hlater := hnot said hrest.symm
          rwa [List.append_assoc] at hlater
      · refine .inr ⟨by rw [hnone]; rfl, fun said hsaid hfits => ?_⟩
        obtain ⟨y, said, rfl, hy, -⟩ := List.map_eq_cons_iff.1 hsaid.symm
        have happend : Fits ((before ++ [y]) ++ said) := by rwa [List.append_assoc]
        exact hnot y hy.symm (h.before happend)

/-- The same for the arguments in some attributes. -/
theorem attributes (h : Recording argument read? Fits Records) {args : List (List TokenTree)}
    {attrs : List Attribute} (hlaid : LaidOut args attrs) {a : α} (ha : Records a []) :
    (∃ said b, args.map read? = said.map some ∧ Records b said ∧
      (ownAttributes attrs).foldlM (attributeArguments argument) a = .ok b) ∨
    (((ownAttributes attrs).foldlM (attributeArguments argument) a).toOption = none ∧
      ∀ said, args.map read? = said.map some → ¬ Fits said) := by
  rw [attributes_eq_foldlM argument hlaid]
  obtain ⟨said, b, hsaid, hfold, hrecords⟩ | hnone := h.run hlaid.leaves ha
  · rw [← attributes_eq_foldlM argument hlaid] at hfold
    exact .inl ⟨said, b, hsaid, hrecords, Attempt.toOption_eq_some.1 hfold⟩
  · exact .inr hnone

end Recording

end Rowsmith.Source

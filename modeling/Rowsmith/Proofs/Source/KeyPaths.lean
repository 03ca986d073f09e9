/-
The path that a key is given by stays within its argument.

A comma separates arguments where no angle bracket is open: `key = Pair<A,
B>` is one argument. Angle brackets are no groups, so this cannot be read
off the token tree; `angleDepth` counts them. Every rule for paths, types
and bounds leaves as many brackets open as it finds, so each is local at
every depth (`LocalIn (Leaves depth)`), and a comma is only read where the
depth is positive. There the comma behind the argument is out of reach: an
argument that still has to close a bracket is not at its end, and one that
never does has no comma behind it. What stands in a group is a single token
here: whatever the grammar has for expressions, patterns and items does not
matter.

The rules for paths and bounds enter one another with a bound on their
depth, and the rule for types with another, so there are two inductions
(`pathRules_local`, `type_local`).

Main result: `localIn_keyPath`.
-/
import Rowsmith.Proofs.Source.Locality
import Rowsmith.Source.Grammar

namespace Rowsmith.Source

open Rowsmith.Source.Parser

-- ======================================================= angle brackets

/-- How many angle brackets are open behind some tokens, if some are open
in front of them; nothing if a comma stands where none is open. The mark
of an arrow is no bracket. -/
def angleDepth : Nat → List TokenTree → Option Nat
  | depth, [] => some depth
  | depth, .punct _ '-' true :: .punct _ '>' _ :: rest => angleDepth depth rest
  | depth, .punct _ '<' _ :: rest => angleDepth (depth + 1) rest
  | depth, .punct _ '>' _ :: rest => angleDepth (depth - 1) rest
  | 0, .punct _ ',' _ :: _ => none
  | depth, _ :: rest => angleDepth depth rest

/-- So many angle brackets are open behind the tokens, if some are open in
front of them, and no comma stands outside. -/
def Leaves (depth unclosed : Nat) (tokens : List TokenTree) : Prop :=
  angleDepth depth tokens = some unclosed

instance (depth unclosed : Nat) (tokens : List TokenTree) :
    Decidable (Leaves depth unclosed tokens) :=
  inferInstanceAs (Decidable (_ = _))

variable {depth unclosed : Nat} {rest : List TokenTree} {pos pos' : Position} {joint joint' : Bool}

theorem angleDepth_plain {token : TokenTree} (h : token.isPlain = true) :
    angleDepth depth (token :: rest) = angleDepth depth rest := by
  cases token with
  | punct pos char joint =>
      simp [TokenTree.isPlain, isPlainChar] at h
      obtain ⟨⟨⟨hopen, hclose⟩, hcomma⟩, hminus⟩ := h
      cases depth <;> simp [angleDepth, hopen, hclose, hcomma, hminus]
  | _ => cases depth <;> rfl

theorem leaves_open : Leaves depth unclosed (.punct pos '<' joint :: rest) ↔
    Leaves (depth + 1) unclosed rest := by
  cases depth <;> rfl

theorem leaves_close : Leaves (depth + 1) unclosed (.punct pos '>' joint :: rest) ↔
    Leaves depth unclosed rest :=
  Iff.rfl

theorem leaves_comma : Leaves (depth + 1) unclosed (.punct pos ',' joint :: rest) ↔
    Leaves (depth + 1) unclosed rest :=
  Iff.rfl

theorem leaves_arrow :
    Leaves depth unclosed (.punct pos '-' true :: .punct pos' '>' joint :: rest) ↔
      Leaves depth unclosed rest := by
  cases depth <;> rfl

theorem leaves_minus {text : String} :
    Leaves depth unclosed (.punct pos '-' joint :: .literal pos' text :: rest) ↔
      Leaves depth unclosed rest := by
  cases depth <;> cases joint <;> rfl

instance plainStable_leaves (depth : Nat) : PlainStable (Leaves depth) :=
  ⟨fun htoken h => (angleDepth_plain htoken).symm.trans h⟩

-- ======================================================= marks and words

instance operator_open : Operator "<" := ⟨by decide⟩

instance operator_close : Operator ">" := ⟨by decide⟩

instance operator_atMost : Operator "<=" := ⟨by decide⟩

instance operator_arrow : Operator "->" := ⟨by decide⟩

theorem takePunct_open :
    Local (Leaves depth) (Leaves (depth + 1)) (fun _ => True) (takePunct "<") := by
  refine local_takePunct (by decide) (fun _ tokens _ _ => (blind_punct "<").append tokens) ?_
  intro _ tokens htokens hpunct
  obtain ⟨pos, joint, rest, rfl, -, -⟩ := exists_of_punctChars hpunct
  exact leaves_open.1 htokens

theorem takePunct_close :
    Local (Leaves (depth + 1)) (Leaves depth) (fun _ => True) (takePunct ">") := by
  refine local_takePunct (by decide) (fun _ tokens _ _ => (blind_punct ">").append tokens) ?_
  intro _ tokens htokens hpunct
  obtain ⟨pos, joint, rest, rfl, -, -⟩ := exists_of_punctChars hpunct
  exact leaves_close.1 htokens

/-- Where a bracket is open, the comma that follows the argument is out of
reach. -/
instance consumes_comma : Consumes (Leaves (depth + 1)) (takePunct ",") := by
  refine ⟨local_takePunct (by decide) (fun _ tokens after htokens hafter => ?_)
    fun _ tokens htokens hpunct => ?_⟩
  · cases tokens with
    | nil =>
        obtain rfl := Option.some.inj htokens
        cases hafter
        rfl
    | cons token rest => cases token <;> rfl
  · obtain ⟨pos, joint, rest, rfl, -, -⟩ := exists_of_punctChars hpunct
    exact leaves_comma.1 htokens

instance consumes_arrow : Consumes (Leaves depth) (takePunct "->") := by
  refine ⟨local_takePunct (by decide) (fun _ tokens _ _ => (blind_punct "->").append tokens) ?_⟩
  intro _ tokens htokens hpunct
  obtain ⟨pos, joint, rest, rfl, hjoint, hrest⟩ := exists_of_punctChars hpunct
  obtain ⟨pos', joint', rest, rfl, -, -⟩ := exists_of_punctChars hrest
  obtain rfl := hjoint (by decide)
  exact leaves_arrow.1 htokens

/-- A literal is one token, or a sign and a number. -/
theorem literal_cases {tokens : List TokenTree} (h : Lookahead.literal tokens = true) :
    (∃ token rest, tokens = token :: rest ∧ token.isPlain = true ∧
      ∀ after scope written leftover, literal ⟨tokens ++ after, scope, written, leftover⟩ =
        .ok ((), ⟨rest ++ after, scope, token :: written, leftover⟩)) ∨
    ∃ pos joint pos' text rest, tokens = .punct pos '-' joint :: .literal pos' text :: rest ∧
      ∀ after scope written leftover, literal ⟨tokens ++ after, scope, written, leftover⟩ =
        .ok ((), ⟨rest ++ after, scope, .literal pos' text :: .punct .start '-' false :: written,
          leftover⟩) := by
  have hrun : ∀ s : ParseState, Lookahead.literal s.rest = true → literal s =
      (do if ← acceptPunct "-" then skip else skip) s := by
    intro s hs
    simp only [literal, bind_apply, ahead, hs, if_true]
  unfold Lookahead.literal at h
  split at h
  case h_1 pos text rest =>
    exact .inl ⟨_, _, rfl, rfl, fun _ _ _ _ => rfl⟩
  case h_2 pos text rest =>
    refine .inl ⟨_, _, rfl, rfl, fun _ _ _ _ => ?_⟩
    exact hrun _ h
  case h_3 pos joint pos' text rest =>
    refine .inr ⟨_, _, _, _, _, rfl, fun _ _ _ _ => ?_⟩
    exact hrun _ h
  case h_4 => cases h

instance blind_literal : Blind Lookahead.literal := by
  refine ⟨fun tokens _ after hafter => ?_⟩
  cases tokens with
  | nil => cases hafter <;> rfl
  | cons token rest =>
      cases token with
      | punct pos char joint =>
          by_cases hminus : char = '-'
          · subst hminus
            cases rest with
            | nil => cases hafter <;> rfl
            | cons token rest => cases token <;> rfl
          · simp [Lookahead.literal, hminus]
      | _ => rfl

instance localIn_literal : LocalIn (Leaves depth) literal := by
  refine ⟨fun _ v hv => ?_⟩
  cases hliteral : Lookahead.literal v.tokens with
  | false =>
      refine .inl fun c => ?_
      have hstate : Lookahead.literal (c.state v).rest = false :=
        (blind_literal.append v.tokens c.closing).trans hliteral
      simp [literal, bind_apply, ahead, hstate, failExpecting]
  | true =>
      obtain ⟨tokens, noted, surplus⟩ := v
      obtain ⟨token, rest, rfl, hplain, hok⟩ | ⟨pos, joint, pos', text, rest, rfl, hok⟩ :=
        literal_cases hliteral
      · exact .inr ⟨(), ⟨rest, token :: noted, surplus⟩, PlainStable.tail hplain hv,
          Nat.le_succ _, False.elim, fun c => hok _ _ _ _⟩
      · exact .inr ⟨(), ⟨rest, .literal pos' text :: .punct .start '-' false :: noted, surplus⟩,
          leaves_minus.1 hv, Nat.le_add_right _ 2, False.elim,
          fun c => hok _ _ _ _⟩

-- ======================================================= lists and loops

variable {P : Nat → List TokenTree → Prop} {α : Type}

instance blind_closesAngle : Blind Grammar.closesAngle := ⟨(blind_punct ">").append⟩

/-- In front of a comma bounds end as they do at the end of the tokens. -/
instance blind_closesBounds : Blind (Grammar.closesBounds [",", ">"]) :=
  blind_of_head (fun token _ => by cases token <;> rfl) fun _ _ => rfl

instance blind_closesParam : Blind (Grammar.closesBounds [",", ">", "="]) :=
  blind_of_head (fun token _ => by cases token <;> rfl) fun _ _ => rfl

instance localIn_upTo {closes : List TokenTree → Bool} {separator : String} {p : Parser α}
    [hcloses : Blind closes] [hp : LocalIn P p] [hseparator : Consumes P (takePunct separator)] :
    LocalIn P (Grammar.upTo closes separator p) := by
  unfold Grammar.upTo
  refine (localIn_iterate (fun found => ?_) []).bind inferInstance
  refine localIn_ahead.keeps.later fun _ => (local_last _).ite ?_
  refine hp.keeps.later fun a => localIn_ahead.keeps.later fun _ => ?_
  refine (local_last _).ite (hseparator.takes.first fun _ => ?_)
  exact (localIn_pure _).keeps

instance localIn_joined {closes : List TokenTree → Bool} {separator : String} {p : Parser α}
    [hcloses : Blind closes] [hp : LocalIn P p] [Operator separator]
    [hseparator : Consumes P (takePunct separator)] :
    LocalIn P (Grammar.joined closes separator p) := by
  unfold Grammar.joined
  refine (localIn_iterate (fun found => ?_) []).bind inferInstance
  refine localIn_ahead.keeps.later fun _ => (local_last _).ite ?_
  refine hp.keeps.later fun a => ?_
  exact local_round (local_acceptPunct hseparator.takes) inferInstance (local_last _)

-- ================================================================ tests

/-- A path goes on unless a call follows. -/
instance blind_pathGoesOn : Blind fun t =>
    Lookahead.punct "::" t && !Lookahead.third (Lookahead.group .parenthesis) t :=
  blind_and_drop 2 blind_not fun _ => length_le_of_punctChars

instance blind_startsCall : Blind fun t => Lookahead.group .parenthesis t ||
    (Lookahead.punct "::" t && Lookahead.third (Lookahead.group .parenthesis) t) :=
  have : Blind fun t =>
      Lookahead.punct "::" t && Lookahead.third (Lookahead.group .parenthesis) t :=
    blind_and_drop 2 inferInstance fun _ => length_le_of_punctChars
  inferInstance

instance blind_startsArgs (inExpr : Bool) : Blind fun t =>
    (!inExpr && Lookahead.punct "<" t && !Lookahead.punct "<=" t) ||
      (Lookahead.punct "::" t && Lookahead.third (Lookahead.punct "<") t) := by
  have : Blind fun t => Lookahead.punct "::" t && Lookahead.third (Lookahead.punct "<") t :=
    blind_and_drop 2 inferInstance fun _ => length_le_of_punctChars
  have : Blind fun _ => !inExpr := ⟨fun _ _ _ _ => rfl⟩
  infer_instance

instance blind_lifetimeAlone : Blind fun t =>
    Lookahead.lifetime t && !Lookahead.second (Lookahead.punct "+") t := by
  refine blind_and_drop 1 blind_not fun tokens h => ?_
  cases tokens with
  | nil => cases h
  | cons => exact Nat.succ_le_succ (Nat.zero_le _)

instance blind_constBound : Blind fun t =>
    Lookahead.punct "~" t && Lookahead.second (Lookahead.word "const") t :=
  blind_and_drop 1 inferInstance fun _ => length_le_of_punctChars

instance blind_startsBound : Blind Grammar.startsBound :=
  inferInstanceAs (Blind fun t => Lookahead.anyWord t || Lookahead.punct "::" t ||
    Lookahead.punct "?" t || Lookahead.lifetime t || Lookahead.group .parenthesis t)

instance blind_startsPath : Blind Grammar.startsPath :=
  inferInstanceAs (Blind fun t => Lookahead.ident t ||
    Lookahead.oneOf ["super", "self", "Self", "crate"] t || Lookahead.punct "::" t ||
    Lookahead.punct "<" t)

-- ================================================================ rules

variable (r : Rules)

/-- What is at the end does not matter to a parser that fails. -/
instance localIn_failAtEnd (cause : Bool → SyntaxCause) :
    LocalIn P (atEnd >>= fun ended => fail (cause ended) : Parser α) :=
  ⟨fun _ _ _ => .inl fun _ => ⟨_, rfl⟩⟩

instance localIn_peekConst : LocalIn P Grammar.peekConst := by
  unfold Grammar.peekConst
  infer_instance

instance localIn_lifetimeParam : LocalIn (Leaves depth) Grammar.lifetimeParam := by
  unfold Grammar.lifetimeParam
  infer_instance

instance consumes_attributeContent : Consumes (Leaves depth) (Grammar.attributeContent r) := by
  unfold Grammar.attributeContent
  infer_instance

instance localIn_outerAttributes : LocalIn (Leaves depth) (Grammar.outerAttributes r) := by
  unfold Grammar.outerAttributes
  infer_instance

/-- The place of bounds is where they fail, if they do. -/
theorem traitBounds_place {plus captures : Bool} {f : Nat → Parser α} (pos pos' : Position)
    (s : ParseState) (result : α × ParseState)
    (h : (Grammar.traitBounds r pos plus captures >>= f) s = .ok result) :
    (Grammar.traitBounds r pos' plus captures >>= f) s = .ok result := by
  simp only [Grammar.traitBounds, bind_apply, ite_run] at h ⊢
  cases hbounds : Grammar.boundList r plus captures s with
  | error e =>
      rw [hbounds] at h
      cases h
  | ok found =>
      obtain ⟨bounds, t⟩ := found
      rw [hbounds] at h
      dsimp only at h ⊢
      cases htrait : bounds.contains Grammar.BoundForm.trait with
      | false =>
          rw [htrait] at h
          cases h
      | true =>
          rw [htrait] at h
          exact h

/-- The rules for paths and bounds at one depth of theirs. -/
structure LocalPaths (n : Nat) : Prop where
  angleArgs : ∀ depth, LocalIn (Leaves depth) (Grammar.angleArgs r n)
  genericArg : ∀ depth, LocalIn (Leaves depth) (Grammar.genericArg r n)
  pathSegment : ∀ depth inExpr, LocalIn (Leaves depth) (Grammar.pathSegment r inExpr n)
  path : ∀ depth inExpr, LocalIn (Leaves depth) (Grammar.path r inExpr n)
  traitBound : ∀ depth, LocalIn (Leaves depth) (Grammar.traitBound r n)
  bound : ∀ depth captures, LocalIn (Leaves depth) (Grammar.bound r captures n)
  boundLifetimes : ∀ depth, LocalIn (Leaves depth) (Grammar.boundLifetimes r n)
  genericParam : ∀ depth nameless, LocalIn (Leaves depth) (Grammar.genericParam r nameless n)

theorem angleArgs_local {n : Nat} (h : LocalPaths r n) :
    LocalIn (Leaves depth) (Grammar.angleArgs r (n + 1)) := by
  have := h.genericArg
  unfold Grammar.angleArgs
  refine ⟨(localIn_acceptPunct "::").keeps.later fun _ => takePunct_open.later fun _ => ?_⟩
  refine Local.later (localIn_iterate (fun args => ?_) []).keeps fun args => ?_
  · refine localIn_ahead.keeps.later fun _ => (local_last _).ite ?_
    refine localIn_apart.keeps.later fun arg => localIn_ahead.keeps.later fun _ => ?_
    exact (local_last _).ite (consumes_comma.takes.apart.first fun _ => (localIn_pure _).keeps)
  · refine (localIn_write _).keeps.later fun _ => takePunct_close.later fun _ => ?_
    exact (localIn_pure _).keeps

theorem pathSegment_local {n : Nat} (h : LocalPaths r n) (inExpr : Bool) :
    LocalIn (Leaves depth) (Grammar.pathSegment r inExpr (n + 1)) := by
  have := h.angleArgs
  unfold Grammar.pathSegment
  refine localIn_choice inferInstance ?_
  extract_lets fromName
  have hname : ∀ name, LocalIn (Leaves depth) (fromName name) := by
    dsimp only [fromName]
    infer_instance
  clear_value fromName
  infer_instance

theorem path_local {n : Nat} (h : LocalPaths r n) (inExpr : Bool) :
    LocalIn (Leaves depth) (Grammar.path r inExpr (n + 1)) := by
  have := h.pathSegment
  unfold Grammar.path
  refine ⟨(localIn_acceptPunct "::").keeps.later fun leading => ?_⟩
  refine (this depth inExpr).keeps.later fun first => ?_
  refine Local.later (localIn_iterate (fun segments => ?_) [first]).keeps fun _ =>
    (localIn_pure _).keeps
  refine localIn_ahead.keeps.later fun _ => Local.ite ?_ (local_last _)
  exact (consumes_takePunct "::").takes.first fun _ => LocalIn.keeps

theorem bound_local {n : Nat} (h : LocalPaths r n) (captures : Bool) :
    LocalIn (Leaves depth) (Grammar.bound r captures (n + 1)) := by
  have := h.traitBound
  unfold Grammar.bound
  refine ⟨localIn_peekLifetime.keeps.later fun _ => LocalIn.keeps.ite ?_⟩
  refine (localIn_peekWord "use").keeps.later fun _ => Local.ite ?_ LocalIn.keeps
  refine (consumes_takeWord "use").takes.later fun _ => takePunct_open.later fun _ => ?_
  refine localIn_upTo.keeps.later fun _ => takePunct_close.later fun _ => LocalIn.keeps

theorem boundLifetimes_local {n : Nat} (h : LocalPaths r n) :
    LocalIn (Leaves depth) (Grammar.boundLifetimes r (n + 1)) := by
  have := h.genericParam
  unfold Grammar.boundLifetimes
  refine ⟨(consumes_takeWord "for").takes.later fun _ => takePunct_open.later fun _ => ?_⟩
  exact localIn_upTo.keeps.later fun _ => takePunct_close.later fun _ => (localIn_pure _).keeps

/-- A record of rules whose rule for types stays within an argument. -/
class LocalTypes (r : Rules) : Prop where
  type : ∀ depth plus, LocalIn (Leaves depth) (r.type plus)

variable [hr : LocalTypes r]

instance localIn_type (plus : Bool) : LocalIn (Leaves depth) (r.type plus) := hr.type depth plus

instance localIn_constArgument : LocalIn (Leaves depth) (Grammar.constArgument r) := by
  unfold Grammar.constArgument
  infer_instance

instance localIn_result (plus : Bool) : LocalIn (Leaves depth) (Grammar.result r plus) := by
  unfold Grammar.result
  infer_instance

instance localIn_callArgs : LocalIn (Leaves depth) (Grammar.callArgs r) := by
  unfold Grammar.callArgs
  infer_instance

theorem genericArg_local {n : Nat} (h : LocalPaths r n) :
    LocalIn (Leaves depth) (Grammar.genericArg r (n + 1)) := by
  have := h.bound
  unfold Grammar.genericArg
  refine localIn_choice inferInstance (localIn_choice inferInstance ?_)
  refine LocalIn.bind inferInstance fun node => ?_
  dsimp only
  infer_instance

theorem traitBound_local {n : Nat} (h : LocalPaths r n) :
    LocalIn (Leaves depth) (Grammar.traitBound r (n + 1)) := by
  have := h.boundLifetimes
  have := h.path
  unfold Grammar.traitBound
  refine LocalIn.bind inferInstance fun quantified => ?_
  -- What follows a part that may be missing is looked at once.
  extract_lets fromPath fromQuestion fromTilde
  have hpath : ∀ u, LocalIn (Leaves depth) (fromPath u) := by
    dsimp only [fromPath]
    infer_instance
  clear_value fromPath
  have hquestion : ∀ u, LocalIn (Leaves depth) (fromQuestion u) := by
    dsimp only [fromQuestion]
    infer_instance
  clear_value fromQuestion
  have htilde : ∀ u, LocalIn (Leaves depth) (fromTilde u) := by
    dsimp only [fromTilde]
    infer_instance
  clear_value fromTilde
  infer_instance

theorem genericParam_local {n : Nat} (h : LocalPaths r n) (nameless : Bool) :
    LocalIn (Leaves depth) (Grammar.genericParam r nameless (n + 1)) := by
  have := h.bound
  unfold Grammar.genericParam
  refine LocalIn.bind inferInstance fun _ => localIn_choice inferInstance ?_
  refine localIn_choice ?_ (localIn_choice inferInstance inferInstance)
  dsimp only
  infer_instance

theorem localPaths (n : Nat) : LocalPaths r n := by
  induction n with
  | zero =>
      refine ⟨?_, ?_, ?_, ?_, ?_, ?_, ?_, ?_⟩ <;> intros
      · unfold Grammar.angleArgs; infer_instance
      · unfold Grammar.genericArg; infer_instance
      · unfold Grammar.pathSegment; infer_instance
      · unfold Grammar.path; infer_instance
      · unfold Grammar.traitBound; infer_instance
      · unfold Grammar.bound; infer_instance
      · unfold Grammar.boundLifetimes; infer_instance
      · unfold Grammar.genericParam; infer_instance
  | succ n ih =>
      exact ⟨fun _ => angleArgs_local r ih, fun _ => genericArg_local r ih,
        fun _ => pathSegment_local r ih, fun _ => path_local r ih, fun _ => traitBound_local r ih,
        fun _ => bound_local r ih, fun _ => boundLifetimes_local r ih,
        fun _ => genericParam_local r ih⟩

instance localIn_pathSegment (inExpr : Bool) (n : Nat) :
    LocalIn (Leaves depth) (Grammar.pathSegment r inExpr n) := (localPaths r n).pathSegment _ _

instance localIn_pathNode (inExpr : Bool) :
    LocalIn (Leaves depth) (Grammar.pathNode r inExpr) := (localPaths r _).path _ _

instance localIn_boundNode (captures : Bool) :
    LocalIn (Leaves depth) (Grammar.boundNode r captures) := (localPaths r _).bound _ _

instance localIn_acceptLifetimes : LocalIn (Leaves depth) (Grammar.acceptLifetimes r) := by
  have := (localPaths r (Grammar.pathDepth r)).boundLifetimes
  unfold Grammar.acceptLifetimes
  infer_instance

instance localIn_qualifiedPath (inExpr : Bool) :
    LocalIn (Leaves depth) (Grammar.qualifiedPath r inExpr) := by
  unfold Grammar.qualifiedPath
  refine ⟨local_accepting takePunct_open ?_ (localIn_pathNode r inExpr).keeps⟩
  refine (localIn_type r true).keeps.later fun _ => ?_
  refine (localIn_acceptWord "as").keeps.later fun _ => ?_
  extract_lets fromBracket
  have hbracket : ∀ u, Local (Leaves (depth + 1)) (Leaves depth) (fun _ => False)
      (fromBracket u) := by
    intro u
    refine takePunct_close.later fun _ => (consumes_takePunct "::").takes.later fun _ => ?_
    refine Local.later (localIn_iterate (fun segments => ?_) []).keeps fun _ => LocalIn.keeps
    refine (localIn_pathSegment r inExpr _).keeps.later fun segment => ?_
    exact local_round (local_acceptPunct (consumes_takePunct "::").takes) inferInstance
      (local_last _)
  refine Local.ite ?_ (hbracket ())
  exact (localIn_pathNode r false).keeps.later fun _ => hbracket ()

/-- One bound after another, each behind a plus sign. -/
instance localIn_boundList (plus captures : Bool) :
    LocalIn (Leaves depth) (Grammar.boundList r plus captures) := by
  unfold Grammar.boundList
  refine LocalIn.bind inferInstance fun first => ?_
  refine (localIn_iterate (fun found => ?_) [first]).bind inferInstance
  have hplus := local_acceptPunct (consumes_takePunct (P := Leaves depth) "+").takes
  exact local_round (hplus.pure_andM plus) inferInstance (local_last found)

instance localIn_traitBounds (pos : Position) (plus captures : Bool) :
    LocalIn (Leaves depth) (Grammar.traitBounds r pos plus captures) := by
  unfold Grammar.traitBounds
  infer_instance

instance localIn_furtherBounds : LocalIn (Leaves depth) (Grammar.furtherBounds r) := by
  unfold Grammar.furtherBounds
  infer_instance

instance localIn_acceptAbi [PlainStable P] : LocalIn P Grammar.acceptAbi := by
  unfold Grammar.acceptAbi
  infer_instance

instance localIn_functionType : LocalIn (Leaves depth) (Grammar.functionType r) := by
  unfold Grammar.functionType
  refine LocalIn.bind inferInstance fun _ => LocalIn.bind inferInstance fun _ => ?_
  infer_instance

instance localIn_parenthesizedType (plus : Bool) :
    LocalIn (Leaves depth) (Grammar.parenthesizedType r plus) := by
  unfold Grammar.parenthesizedType
  refine LocalIn.bind inferInstance fun ⟨node, isTuple, isBound⟩ => ?_
  cases node with
  | none => dsimp only; infer_instance
  | some node => dsimp only; infer_instance

instance localIn_pathType (plus quantified : Bool) :
    LocalIn (Leaves depth) (Grammar.pathType r plus quantified) := by
  unfold Grammar.pathType
  refine LocalIn.bind inferInstance fun p => ?_
  refine LocalIn.bind inferInstance fun called => ?_
  extract_lets fromPath called
  have hplus := local_acceptPunct (consumes_takePunct (P := Leaves depth) "+").takes
  have hbounds : LocalIn (Leaves depth) (iterate (fun bounds => do
      if ← pure plus <&&> acceptPunct "+" then
        if ← ahead Grammar.startsBound then
          let _ ← Grammar.boundNode r false
          return (true, bounds + 1)
        else return (false, bounds + 1)
      else return (false, bounds)) 1) :=
    localIn_iterate (fun bounds =>
      local_round (hplus.pure_andM plus) inferInstance (local_last bounds)) 1
  have hpath : ∀ p, LocalIn (Leaves depth) (fromPath p) := by
    dsimp only [fromPath]
    infer_instance
  clear_value fromPath
  have hfurther : LocalIn (Leaves depth) (iterate (fun (p : Grammar.PathNode) => do
      let further ← ahead fun t =>
        Lookahead.punct "::" t && !Lookahead.third (Lookahead.group .parenthesis) t
      if further then
        let _ ← takePunct "::"
        let segment ← Grammar.pathSegment r false (Grammar.pathDepth r)
        return (true, { p with segments := p.segments ++ [segment] })
      else return (false, p)) called) := by
    refine localIn_iterate (fun p => localIn_ahead.keeps.later fun _ => ?_) _
    refine Local.ite ?_ (local_last p)
    exact (consumes_takePunct "::").takes.first fun _ => LocalIn.keeps
  infer_instance

instance localIn_typeOutcome (plus : Bool) :
    LocalIn (Leaves depth) (Grammar.typeOutcome r plus) := by
  unfold Grammar.typeOutcome
  refine LocalIn.bind inferInstance fun quantified => ?_
  extract_lets fromConst fromLifetime fromLifetimes
  have hconst : ∀ u, LocalIn (Leaves depth) (fromConst u) := by
    dsimp only [fromConst]
    infer_instance
  clear_value fromConst
  have hlifetime : ∀ u, LocalIn (Leaves depth) (fromLifetime u) := by
    dsimp only [fromLifetime]
    infer_instance
  clear_value fromLifetime
  have hbounds : LocalIn (Leaves depth) (here >>= fun pos => do
      let bounds ← Grammar.traitBounds r pos true false
      return (Grammar.TypeOutcome.kept .traitObject, TypeForm.bounds (bounds == 1))) :=
    localIn_here (fun _ => inferInstance) fun pos pos' s result _ _ =>
      traitBounds_place r pos pos' s result
  have hlifetimes : ∀ u, LocalIn (Leaves depth) (fromLifetimes u) := by
    intro u
    -- One alternative after another; the four in the middle begin with a mark.
    refine localIn_choice inferInstance (localIn_choice inferInstance ?_)
    refine localIn_choice inferInstance (localIn_choice inferInstance ?_)
    refine localIn_choice inferInstance (localIn_choice inferInstance ?_)
    refine localIn_choice inferInstance (localIn_choice inferInstance ?_)
    refine localIn_choice inferInstance (localIn_choice inferInstance ?_)
    exact localIn_choice hbounds inferInstance
  clear_value fromLifetimes
  infer_instance

instance localIn_typeNode (plus : Bool) : LocalIn (Leaves depth) (Grammar.typeNode r plus) := by
  unfold Grammar.typeNode
  dsimp only
  infer_instance

/-- At every depth of the grammar the rule for types stays within an
argument. -/
instance localTypes (n : Nat) : LocalTypes (rules n) := by
  induction n with
  | zero => exact ⟨fun _ _ => localIn_fail _⟩
  | succ n ih => exact ⟨fun _ plus => localIn_typeNode (rules n) plus⟩

/-- A path stays within an argument. -/
theorem localIn_keyPath (n : Nat) : LocalIn (Leaves depth) (keyPath (rules n)) := by
  unfold keyPath
  infer_instance

end Rowsmith.Source

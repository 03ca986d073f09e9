/-
Parsers that keep within an argument.

What an attribute lists is read by one parser from end to end, so whatever
is said of a single argument has to be said of a parser that could read on:
behind the argument there is a comma and the arguments that follow, the
tokens read before have been noted, and a group among them may have held
too much. A parser is local if none of this matters. It fails in all
surroundings, or it gives the same value in all of them and leaves the
same tokens of the argument (`Local`).

Where the argument ends is for the grammar to say, and it differs. So
locality is stated for two properties of the tokens of the argument that
are left, one in front of the parser and one behind it. The first must
keep the parser from reading the comma behind the argument; what a parser
reads before has to leave the second. Both are the same for most parsers,
and the rules below then find the way by themselves. A property may also
speak of the brackets that are open behind the argument: if there are any,
no comma is.

A loop bounds its rounds by all the tokens that are left in the group, and
that is no property of the argument. The bound does not matter since a
round that is not the last one reads a token (`localIn_iterate`); hence a
local parser also says with which of its values it has read something.
-/
import Mathlib.Logic.Basic
import Rowsmith.Source.Parser

namespace Rowsmith.Source

open Rowsmith.Source.Parser

-- ========================================================== surroundings

/-- What may stand behind an argument that leaves some brackets open:
nothing, or a comma if none is open. -/
inductive Closing : Nat → List TokenTree → Prop
  | nothing {unclosed : Nat} : Closing unclosed []
  | comma {pos : Position} {joint : Bool} {rest : List TokenTree} :
      Closing 0 (.punct pos ',' joint :: rest)

/-- What a parser sees of an argument and what it has noted since. -/
structure View where
  tokens : List TokenTree
  -- In reverse.
  noted : List TokenTree
  surplus : Option SyntaxError

/-- The view of an argument of which nothing is read. -/
def View.of (tokens : List TokenTree) : View := ⟨tokens, [], none⟩

/-- What surrounds an argument that leaves some brackets open. -/
structure Surroundings (unclosed : Nat) where
  after : List TokenTree
  closing : Closing unclosed after
  scope : Position
  written : List TokenTree
  leftover : Option SyntaxError

namespace Surroundings

variable {unclosed : Nat}

/-- No surroundings: the argument is all there is. -/
def none (scope : Position) : Surroundings unclosed := ⟨[], .nothing, scope, [], .none⟩

/-- Where a parser stands that has a view of an argument. -/
def state (c : Surroundings unclosed) (v : View) : ParseState where
  rest := v.tokens ++ c.after
  scope := c.scope
  written := v.noted ++ c.written
  leftover := c.leftover.or v.surplus

end Surroundings

/-- In front of tokens with a property, the parser does the same in all
surroundings, and leaves tokens with another property. -/
def Local {α : Type} (P Q : Nat → List TokenTree → Prop) (reads : α → Prop) (p : Parser α) :
    Prop :=
  ∀ (unclosed : Nat) (v : View), P unclosed v.tokens →
    (∀ c : Surroundings unclosed, ∃ e, p (c.state v) = .error e) ∨
    ∃ a w, Q unclosed w.tokens ∧ w.tokens.length ≤ v.tokens.length ∧
      (reads a → w.tokens.length < v.tokens.length) ∧
      ∀ c : Surroundings unclosed, p (c.state v) = .ok (a, c.state w)

/-- The parser is local and keeps a property of the tokens. The rules for
this are instances: that a parser is local follows from its parts. -/
class LocalIn {α : Type} (P : Nat → List TokenTree → Prop) (p : Parser α) : Prop where
  keeps : Local P P (fun _ => False) p

/-- The parser is local, keeps a property of the tokens and reads one. -/
class Consumes {α : Type} (P : Nat → List TokenTree → Prop) (p : Parser α) : Prop where
  takes : Local P P (fun _ => True) p

variable {α β : Type} {P Q R : Nat → List TokenTree → Prop} {reads : α → Prop} {p : Parser α}
  {f : α → Parser β}

-- ============================================================ sequences

theorem Local.mono {reads' : α → Prop} (h : Local P Q reads p) (hreads : ∀ a, reads' a → reads a) :
    Local P Q reads' p := by
  intro unclosed v hv
  obtain hfail | ⟨a, w, hw, hle, hlt, hok⟩ := h unclosed v hv
  · exact .inl hfail
  · exact .inr ⟨a, w, hw, hle, fun ha => hlt (hreads a ha), hok⟩

instance localIn_of_consumes [h : Consumes P p] : LocalIn P p :=
  ⟨h.takes.mono fun _ => False.elim⟩

theorem local_pure {a : α} (h : ¬ reads a) : Local P P reads (pure a : Parser α) :=
  fun _ v hv => .inr ⟨a, v, hv, Nat.le_refl _, fun ha => absurd ha h, fun _ => rfl⟩

theorem bind_apply (s : ParseState) : (p >>= f) s = match p s with
    | .ok (a, t) => f a t
    | .error e => .error e := by
  show p s >>= _ = _
  cases p s <;> rfl

theorem map_apply (g : α → β) (s : ParseState) : (g <$> p) s = match p s with
    | .ok (a, t) => .ok (g a, t)
    | .error e => .error e := by
  rw [map_eq_pure_bind, bind_apply]
  rfl

theorem ite_run {condition : Prop} [Decidable condition] {q : Parser α} (s : ParseState) :
    (if condition then p else q) s = if condition then p s else q s := by
  split <;> rfl

/-- What is read in sequence. A token is read if the first parser says that
it has read one, or the second does. -/
theorem Local.bind {readsThen : α → β → Prop} {goal : β → Prop} (hp : Local P Q reads p)
    (hf : ∀ a, Local Q R (readsThen a) (f a))
    (hgoal : ∀ a b, goal b → reads a ∨ readsThen a b) : Local P R goal (p >>= f) := by
  intro unclosed v hv
  obtain hfail | ⟨a, w, hw, hle, hlt, hok⟩ := hp unclosed v hv
  · refine .inl fun c => ?_
    obtain ⟨e, he⟩ := hfail c
    exact ⟨e, by rw [bind_apply, he]⟩
  have hstep : ∀ c : Surroundings unclosed, (p >>= f) (c.state v) = f a (c.state w) := by
    intro c
    rw [bind_apply, hok c]
  obtain hfail | ⟨b, u, hu, hle', hlt', hok'⟩ := hf a unclosed w hw
  · refine .inl fun c => ?_
    obtain ⟨e, he⟩ := hfail c
    exact ⟨e, (hstep c).trans he⟩
  · refine .inr ⟨b, u, hu, Nat.le_trans hle' hle, fun hb => ?_, fun c => (hstep c).trans (hok' c)⟩
    cases hgoal a b hb with
    | inl ha => exact Nat.lt_of_le_of_lt hle' (hlt ha)
    | inr hb' => exact Nat.lt_of_lt_of_le (hlt' hb') hle

/-- A parser that reads a token at first. -/
theorem Local.first {goal : β → Prop} (hp : Local P Q (fun _ => True) p)
    (hf : ∀ a, Local Q R (fun _ => False) (f a)) : Local P R goal (p >>= f) :=
  hp.bind hf fun _ _ _ => .inl trivial

/-- A parser that may read a token later on. -/
theorem Local.later {goal : β → Prop} (hp : Local P Q reads p)
    (hf : ∀ a, Local Q R goal (f a)) : Local P R goal (p >>= f) :=
  hp.bind hf fun _ _ hb => .inr hb

theorem Local.ite {condition : Prop} [Decidable condition] {q : Parser α} (hp : Local P Q reads p)
    (hq : Local P Q reads q) : Local P Q reads (if condition then p else q) := by
  split
  · exact hp
  · exact hq

instance localIn_pure (a : α) : LocalIn P (pure a : Parser α) := ⟨local_pure id⟩

theorem LocalIn.bind (hp : LocalIn P p) (hf : ∀ a, LocalIn P (f a)) : LocalIn P (p >>= f) :=
  ⟨hp.keeps.later fun a => (hf a).keeps⟩

instance localIn_bind [hp : LocalIn P p] [hf : ∀ a, LocalIn P (f a)] : LocalIn P (p >>= f) :=
  hp.bind hf

instance consumes_bind [hp : Consumes P p] [hf : ∀ a, LocalIn P (f a)] : Consumes P (p >>= f) :=
  ⟨hp.takes.first fun a => (hf a).keeps⟩

instance localIn_ite {condition : Prop} [Decidable condition] {q : Parser α} [hp : LocalIn P p]
    [hq : LocalIn P q] : LocalIn P (if condition then p else q) :=
  ⟨hp.keeps.ite hq.keeps⟩

/-- Alternatives that are told apart by a test. -/
theorem localIn_choice {test : Parser Bool} {q : Parser α} [LocalIn P test] (hp : LocalIn P p)
    (hq : LocalIn P q) : LocalIn P (test >>= fun found => if found = true then p else q) :=
  inferInstance

instance localIn_fail (cause : SyntaxCause) : LocalIn P (fail cause : Parser α) :=
  ⟨fun _ _ _ => .inl fun _ => ⟨_, rfl⟩⟩

instance localIn_failExpecting (what : List String) :
    LocalIn P (failExpecting what : Parser α) :=
  ⟨fun _ _ _ => .inl fun _ => ⟨_, rfl⟩⟩

instance localIn_failAt (pos : Position) (cause : SyntaxCause) :
    LocalIn P (failAt pos cause : Parser α) :=
  ⟨fun _ _ _ => .inl fun _ => ⟨_, rfl⟩⟩

instance localIn_write (tokens : List TokenTree) : LocalIn P (write tokens) := by
  refine ⟨fun _ v hv => .inr ⟨(), ⟨v.tokens, tokens.reverse ++ v.noted, v.surplus⟩, hv,
    Nat.le_refl _, False.elim, fun c => ?_⟩⟩
  show Except.ok ((), _) = _
  simp only [Surroundings.state, List.append_assoc]

/-- A parser that is given its place. The place is that of the next token
of the argument; where there is none, it may only be used to say where the
parser fails. -/
theorem localIn_here {f : Position → Parser α} (hf : ∀ pos, LocalIn P (f pos))
    (hplace : ∀ (pos pos' : Position) (s : ParseState) (r : α × ParseState) (unclosed : Nat),
      Closing unclosed s.rest → f pos s = .ok r → f pos' s = .ok r) : LocalIn P (here >>= f) := by
  refine ⟨fun unclosed v hv => ?_⟩
  obtain ⟨tokens, noted, surplus⟩ := v
  cases tokens with
  | cons token tokens => exact (hf token.pos).keeps unclosed ⟨token :: tokens, noted, surplus⟩ hv
  | nil =>
      have hstate : ∀ c : Surroundings unclosed, (here >>= f) (c.state ⟨[], noted, surplus⟩) =
          f (c.state ⟨[], noted, surplus⟩).pos (c.state ⟨[], noted, surplus⟩) := fun _ => rfl
      obtain hfail | ⟨a, w, hw, hle, -, hok⟩ :=
        (hf .start).keeps unclosed ⟨[], noted, surplus⟩ hv
      · refine .inl fun c => ?_
        obtain ⟨e, he⟩ := hfail c
        rw [hstate]
        cases hrun : f (c.state ⟨[], noted, surplus⟩).pos (c.state ⟨[], noted, surplus⟩) with
        | error e' => exact ⟨e', rfl⟩
        | ok r =>
            rw [hplace _ .start _ _ _ c.closing hrun] at he
            cases he
      · refine .inr ⟨a, w, hw, hle, False.elim, fun c => (hstate c).trans ?_⟩
        exact hplace _ _ _ _ _ c.closing (hok c)

/-- A parser whose tokens are set apart. The value comes with them, and
they are those noted since the parser began. -/
theorem Local.apart (hp : Local P Q reads p) :
    Local P Q (fun r => reads r.1) (Parser.apart p) := by
  intro unclosed v hv
  have hstate : ∀ c : Surroundings unclosed, ({ c.state v with written := [] } : ParseState) =
      ({ c with written := [] } : Surroundings unclosed).state { v with noted := [] } :=
    fun _ => rfl
  obtain hfail | ⟨a, w, hw, hle, hlt, hok⟩ := hp unclosed { v with noted := [] } hv
  · refine .inl fun c => ?_
    obtain ⟨e, he⟩ := hfail { c with written := [] }
    exact ⟨e, by rw [Parser.apart, hstate, he]; rfl⟩
  · refine .inr ⟨(a, w.noted.reverse), { w with noted := v.noted }, hw, hle, hlt, fun c => ?_⟩
    rw [Parser.apart, hstate, hok]
    show Except.ok ((a, (w.noted ++ []).reverse), _) = _
    rw [List.append_nil]
    rfl

instance localIn_apart [hp : LocalIn P p] : LocalIn P (Parser.apart p) := ⟨hp.keeps.apart⟩

instance localIn_recorded [LocalIn P p] : LocalIn P (recorded p) := by
  unfold recorded
  infer_instance

-- ================================================================ loops

/-- The last round of a loop. -/
theorem local_last (a : α) :
    Local P P (fun r : Bool × α => r.1 = true) (pure (false, a) : Parser (Bool × α)) :=
  local_pure Bool.false_ne_true

/-- A round that begins with a token that may be missing; if it is, the
round is the last. -/
theorem local_round {p : Parser Bool} {f : Bool → Parser (Bool × α)}
    (hp : Local P P (fun read => read = true) p) (hfound : LocalIn P (f true))
    (hmissing : Local P P (fun r => r.1 = true) (f false)) :
    Local P P (fun r => r.1 = true) (p >>= f) := by
  have hrest : ∀ found, Local P P (fun r => found = false ∧ r.1 = true) (f found) := by
    intro found
    cases found with
    | true => exact hfound.keeps.mono fun _ h => Bool.noConfusion h.1
    | false => exact hmissing.mono fun _ h => h.2
  refine hp.bind hrest fun found r h => ?_
  cases found with
  | true => exact .inl rfl
  | false => exact .inr ⟨rfl, h⟩

/-- What is only looked for under a condition. -/
theorem pure_andM (condition : Bool) (p : Parser Bool) :
    (pure condition <&&> p) = if condition = true then p else pure false := by
  cases condition <;> rfl

theorem Local.pure_andM {p : Parser Bool} (hp : Local P P (fun read => read = true) p)
    (condition : Bool) : Local P P (fun read => read = true) (pure condition <&&> p) := by
  rw [Source.pure_andM]
  exact hp.ite (local_pure Bool.false_ne_true)

/-- A loop whose rounds read a token unless they are the last. -/
theorem localIn_iterate {step : α → Parser (Bool × α)}
    (hstep : ∀ a, Local P P (fun r => r.1 = true) (step a)) (a : α) :
    LocalIn P (iterate step a) := by
  refine ⟨fun unclosed v hv => ?_⟩
  -- How many rounds there may be does not matter if there are more than
  -- tokens of the argument.
  suffices h : ∀ (n : Nat) (a : α) (v : View), v.tokens.length < n → P unclosed v.tokens →
      (∀ (c : Surroundings unclosed) (bound : Nat), v.tokens.length < bound →
        ∃ e, iterateWithin step bound a (c.state v) = .error e) ∨
      ∃ b w, P unclosed w.tokens ∧ w.tokens.length ≤ v.tokens.length ∧
        ∀ (c : Surroundings unclosed) (bound : Nat), v.tokens.length < bound →
          iterateWithin step bound a (c.state v) = .ok (b, c.state w) by
    have hbound : ∀ c : Surroundings unclosed, v.tokens.length < (c.state v).rest.length + 1 := by
      intro c
      simp only [Surroundings.state, List.length_append]
      omega
    obtain hfail | ⟨b, w, hw, hle, hok⟩ := h _ a v (Nat.lt_succ_self _) hv
    · exact .inl fun c => hfail c _ (hbound c)
    · exact .inr ⟨b, w, hw, hle, False.elim, fun c => hok c _ (hbound c)⟩
  clear hv v
  intro n
  induction n with
  | zero => exact fun _ _ h => absurd h (Nat.not_lt_zero _)
  | succ n ih =>
      intro a v hn hv
      obtain hfail | ⟨⟨again, b⟩, w, hw, hle, hlt, hok⟩ := hstep a unclosed v hv
      · refine .inl fun c bound hbound => ?_
        obtain ⟨e, he⟩ := hfail c
        cases bound with
        | zero => exact absurd hbound (Nat.not_lt_zero _)
        | succ bound => exact ⟨e, by rw [iterateWithin, bind_apply, he]⟩
      have hround : ∀ (c : Surroundings unclosed) (bound : Nat),
          iterateWithin step (bound + 1) a (c.state v) =
            (if again = true then iterateWithin step bound b else pure b) (c.state w) := by
        intro c bound
        rw [iterateWithin, bind_apply, hok c]
      cases again with
      | false =>
          refine .inr ⟨b, w, hw, hle, fun c bound hbound => ?_⟩
          cases bound with
          | zero => exact absurd hbound (Nat.not_lt_zero _)
          | succ bound => exact hround c bound
      | true =>
          have hless : w.tokens.length < v.tokens.length := hlt rfl
          obtain hfail | ⟨b', u, hu, hle', hok'⟩ := ih b w (by omega) hw
          · refine .inl fun c bound hbound => ?_
            cases bound with
            | zero => exact absurd hbound (Nat.not_lt_zero _)
            | succ bound =>
                obtain ⟨e, he⟩ := hfail c bound (by omega)
                exact ⟨e, (hround c bound).trans he⟩
          · refine .inr ⟨b', u, hu, Nat.le_trans hle' hle, fun c bound hbound => ?_⟩
            cases bound with
            | zero => exact absurd hbound (Nat.not_lt_zero _)
            | succ bound => exact (hround c bound).trans (hok' c bound (by omega))

/-- A parser that is repeated while a condition holds has to read a token
each time. -/
instance localIn_whileDo {condition : Parser Bool} [hcondition : LocalIn P condition]
    [hp : Consumes P p] : LocalIn P (whileDo condition p) := by
  unfold whileDo
  refine (localIn_iterate (fun found => ?_) []).bind inferInstance
  refine hcondition.keeps.later fun again => Local.ite ?_ (local_last found)
  exact hp.takes.first fun _ => (localIn_pure _).keeps

-- ================================================================ tests

/-- What the test says of an argument does not depend on what follows it. -/
class Blind (test : List TokenTree → Bool) : Prop where
  append : ∀ (tokens : List TokenTree) {unclosed : Nat} {after : List TokenTree},
    Closing unclosed after → test (tokens ++ after) = test tokens

variable {test test' : List TokenTree → Bool}

instance localIn_ahead [h : Blind test] : LocalIn P (ahead test) := by
  refine ⟨fun _ v hv => .inr ⟨test v.tokens, v, hv, Nat.le_refl _, False.elim, fun c => ?_⟩⟩
  rw [← h.append v.tokens c.closing]
  rfl

/-- A test of the next token that treats a comma as it does the end. -/
theorem blind_of_head (hhead : ∀ token rest, test (token :: rest) = test [token])
    (hcomma : ∀ pos joint, test [.punct pos ',' joint] = test []) : Blind test := by
  refine ⟨fun tokens _ after hafter => ?_⟩
  cases tokens with
  | nil =>
      cases hafter with
      | nothing => rfl
      | comma => exact (hhead _ _).trans (hcomma _ _)
  | cons token rest =>
      rw [List.cons_append]
      exact (hhead _ _).trans (hhead _ _).symm

instance blind_and [h : Blind test] [h' : Blind test'] : Blind fun t => test t && test' t :=
  ⟨fun tokens _ _ hafter => congrArg₂ (· && ·) (h.append tokens hafter) (h'.append tokens hafter)⟩

instance blind_or [h : Blind test] [h' : Blind test'] : Blind fun t => test t || test' t :=
  ⟨fun tokens _ _ hafter => congrArg₂ (· || ·) (h.append tokens hafter) (h'.append tokens hafter)⟩

instance blind_not [h : Blind test] : Blind fun t => !test t :=
  ⟨fun tokens _ _ hafter => congrArg (!·) (h.append tokens hafter)⟩

/-- A test behind some tokens, if another one has found that they are
there. -/
theorem blind_and_drop (n : Nat) [h : Blind test] (h' : Blind test')
    (hlength : ∀ tokens, test tokens = true → n ≤ tokens.length) :
    Blind fun t => test t && test' (t.drop n) := by
  refine ⟨fun tokens _ after hafter => ?_⟩
  rw [h.append tokens hafter]
  cases htest : test tokens with
  | false => rfl
  | true => rw [List.drop_append_of_le_length (hlength tokens htest), h'.append _ hafter]

instance blind_word (text : String) : Blind (Lookahead.word text) :=
  blind_of_head (fun token _ => by cases token <;> rfl) fun _ _ => rfl

instance blind_anyWord : Blind Lookahead.anyWord :=
  blind_of_head (fun token _ => by cases token <;> rfl) fun _ _ => rfl

instance blind_ident : Blind Lookahead.ident :=
  blind_of_head (fun token _ => by cases token <;> rfl) fun _ _ => rfl

instance blind_lifetime : Blind Lookahead.lifetime :=
  blind_of_head (fun token _ => by cases token <;> rfl) fun _ _ => rfl

instance blind_group (delimiter : Delimiter) : Blind (Lookahead.group delimiter) :=
  blind_of_head (fun token _ => by cases token <;> rfl) fun _ _ => rfl

instance blind_string : Blind Lookahead.string :=
  blind_of_head (fun token _ => by cases token <;> rfl) fun _ _ => rfl

instance blind_oneOf (words : List String) : Blind (Lookahead.oneOf words) := by
  refine ⟨fun tokens _ after hafter => ?_⟩
  unfold Lookahead.oneOf
  simp only [(blind_word _).append tokens hafter]

/-- The characters of an operator without a comma are found within an
argument or not at all. -/
theorem punctChars_append {chars : List Char} (hchars : ',' ∉ chars) (tokens : List TokenTree)
    {unclosed : Nat} {after : List TokenTree} (hafter : Closing unclosed after) :
    Lookahead.punctChars chars (tokens ++ after) = Lookahead.punctChars chars tokens := by
  induction chars generalizing tokens with
  | nil => cases tokens <;> cases after <;> rfl
  | cons c chars ih =>
      obtain ⟨hc, hchars⟩ := not_or.1 (mt List.mem_cons.2 hchars)
      cases tokens with
      | nil =>
          cases hafter with
          | nothing => rfl
          | comma => cases chars <;> simp [Lookahead.punctChars, hc]
      | cons token tokens =>
          cases token with
          | punct => cases chars <;> simp [Lookahead.punctChars, ih hchars]
          | _ => cases chars <;> rfl

/-- The tests of the parsers that ask what is next. -/
instance localIn_peekWord (text : String) : LocalIn P (peekWord text) := localIn_ahead

instance localIn_peekGroup (delimiter : Delimiter) : LocalIn P (peekGroup delimiter) :=
  localIn_ahead

instance localIn_peekIdent : LocalIn P peekIdent := localIn_ahead

instance localIn_peekLifetime : LocalIn P peekLifetime := localIn_ahead

theorem exists_of_punctChars {c : Char} {chars : List Char} {tokens : List TokenTree}
    (h : Lookahead.punctChars (c :: chars) tokens = true) :
    ∃ pos joint rest, tokens = .punct pos c joint :: rest ∧ (chars ≠ [] → joint = true) ∧
      Lookahead.punctChars chars rest = true := by
  cases tokens with
  | nil => cases chars <;> cases h
  | cons token rest =>
      cases token with
      | punct pos found joint =>
          cases chars with
          | nil =>
              obtain rfl := eq_of_beq h
              exact ⟨pos, joint, rest, rfl, fun h => absurd rfl h, by cases rest <;> rfl⟩
          | cons c' chars =>
              simp only [Lookahead.punctChars, Bool.and_eq_true, beq_iff_eq] at h
              obtain ⟨⟨rfl, hjoint⟩, hrest⟩ := h
              exact ⟨pos, joint, rest, rfl, fun _ => hjoint, hrest⟩
      | _ => cases chars <;> cases h

theorem length_le_of_punctChars {chars : List Char} {tokens : List TokenTree}
    (h : Lookahead.punctChars chars tokens = true) : chars.length ≤ tokens.length := by
  induction chars generalizing tokens with
  | nil => exact Nat.zero_le _
  | cons c chars ih =>
      obtain ⟨pos, joint, rest, rfl, -, hrest⟩ := exists_of_punctChars h
      exact Nat.succ_le_succ (ih hrest)

-- ======================================================== single tokens

/-- A character that is no comma, no angle bracket, and not what makes an
arrow of one. -/
def isPlainChar (char : Char) : Bool := char != '<' && char != '>' && char != ',' && char != '-'

/-- A token that is no comma and opens and closes nothing by itself. -/
def TokenTree.isPlain : TokenTree → Bool
  | .punct _ char _ => isPlainChar char
  | _ => true

/-- The property of what is left of an argument does not depend on plain
tokens at its front. -/
class PlainStable (P : Nat → List TokenTree → Prop) : Prop where
  tail : ∀ {unclosed : Nat} {token : TokenTree} {rest : List TokenTree}, token.isPlain = true →
    P unclosed (token :: rest) → P unclosed rest

/-- A parser that reads one token: whether it may, the value, the token as
it is noted, and what was too much in it, depend on the token alone. -/
theorem consumes_of_head [PlainStable P]
    (hnil : ∀ scope written leftover, ∃ e, p ⟨[], scope, written, leftover⟩ = .error e)
    (hcons : ∀ token : TokenTree,
      (∀ rest scope written leftover, ∃ e, p ⟨token :: rest, scope, written, leftover⟩ = .error e) ∨
      (token.isPlain = true ∧ ∃ a noted surplus, ∀ rest scope written leftover,
        p ⟨token :: rest, scope, written, leftover⟩ =
          .ok (a, ⟨rest, scope, noted :: written, leftover.or surplus⟩))) :
    Consumes P p := by
  refine ⟨fun _ ⟨tokens, noted, surplus⟩ hv => ?_⟩
  cases tokens with
  | nil =>
      refine .inl fun ⟨after, hclosing, scope, written, leftover⟩ => ?_
      cases hclosing with
      | nothing => exact hnil _ _ _
      | @comma pos joint rest =>
          obtain hfail | ⟨hplain, -⟩ := hcons (.punct pos ',' joint)
          · exact hfail _ _ _ _
          · cases hplain
  | cons token rest =>
      obtain hfail | ⟨hplain, a, noted', surplus', hok⟩ := hcons token
      · exact .inl fun c => hfail _ _ _ _
      · refine .inr ⟨a, ⟨rest, noted' :: noted, surplus.or surplus'⟩,
          PlainStable.tail hplain hv, Nat.le_succ _, fun _ => Nat.lt_succ_self _, fun c => ?_⟩
        refine (hok _ _ _ _).trans ?_
        rw [Option.or_assoc]
        rfl

instance consumes_takeWord [PlainStable P] (text : String) : Consumes P (takeWord text) := by
  refine consumes_of_head (fun _ _ _ => ⟨_, rfl⟩) fun token => ?_
  cases token with
  | word pos found =>
      by_cases h : found = text
      · subst h
        exact .inr ⟨rfl, pos, .word pos found, none, fun _ _ _ _ => by
          simp [takeWord, bind_apply, map_apply, here, peekWord, ahead, Lookahead.word, skip,
            ParseState.pos, TokenTree.pos]⟩
      · exact .inl fun _ _ _ _ => by
          simp [takeWord, bind_apply, map_apply, here, peekWord, ahead, Lookahead.word, h,
            failExpecting]
  | _ => exact .inl fun _ _ _ _ => ⟨_, rfl⟩

instance consumes_anyWord [PlainStable P] : Consumes P anyWord := by
  refine consumes_of_head (fun _ _ _ => ⟨_, rfl⟩) fun token => ?_
  cases token with
  | word pos text =>
      exact .inr ⟨rfl, text, .word pos text, none, fun _ _ _ _ => by simp [anyWord]⟩
  | _ => exact .inl fun _ _ _ _ => ⟨_, rfl⟩

instance consumes_ident [PlainStable P] : Consumes P ident := by
  refine consumes_of_head (fun _ _ _ => ⟨_, rfl⟩) fun token => ?_
  cases token with
  | word pos text =>
      by_cases h : text ∈ Lookahead.reserved
      · exact .inl fun _ _ _ _ => by simp [ident, Lookahead.ident, h]
      · exact .inr ⟨rfl, text, .word pos text, none, fun _ _ _ _ => by
          simp [ident, anyWord, Lookahead.ident, h]⟩
  | _ => exact .inl fun _ _ _ _ => ⟨_, rfl⟩

instance consumes_lifetime [PlainStable P] : Consumes P lifetime := by
  refine consumes_of_head (fun _ _ _ => ⟨_, rfl⟩) fun token => ?_
  cases token with
  | lifetime pos name =>
      exact .inr ⟨rfl, (), .lifetime pos name, none, fun _ _ _ _ => by
        simp [Parser.lifetime, bind_apply, peekLifetime, ahead, Lookahead.lifetime, skip]⟩
  | _ => exact .inl fun _ _ _ _ => ⟨_, rfl⟩

instance consumes_string [PlainStable P] : Consumes P Parser.string := by
  refine consumes_of_head (fun _ _ _ => ⟨_, rfl⟩) fun token => ?_
  cases token with
  | literal pos text =>
      cases h : stringValue? text with
      | none => exact .inl fun _ _ _ _ => by simp [Parser.string, h, failExpecting]
      | some value =>
          exact .inr ⟨rfl, value, .literal pos text, none, fun _ _ _ _ => by
            simp [Parser.string, h]⟩
  | _ => exact .inl fun _ _ _ _ => ⟨_, rfl⟩

instance consumes_anyGroup [PlainStable P] : Consumes P anyGroup := by
  refine consumes_of_head (fun _ _ _ => ⟨_, rfl⟩) fun token => ?_
  cases token with
  | group pos closed delimiter content =>
      exact .inr ⟨rfl, delimiter, .group pos closed delimiter content, none, fun _ _ _ _ => by
        simp [anyGroup]⟩
  | _ => exact .inl fun _ _ _ _ => ⟨_, rfl⟩

/-- Whatever reads the content of a group: a group is a single token. -/
instance consumes_inGroup [PlainStable P] (delimiter : Delimiter) (p : Parser α) :
    Consumes P (inGroup delimiter p) := by
  refine consumes_of_head (fun _ _ _ => ⟨_, rfl⟩) fun token => ?_
  cases token with
  | group pos closed found content =>
      by_cases h : found = delimiter
      · subst h
        cases hcontent : p (.start content closed) with
        | error e => exact .inl fun _ _ _ _ => by simp [inGroup, hcontent, bind, Except.bind]
        | ok r =>
            obtain ⟨a, t⟩ := r
            exact .inr ⟨rfl, a, .group pos closed found t.written.reverse,
              t.leftover.or (t.surplus (some found)), fun _ _ _ _ => by
                simp [inGroup, hcontent, bind, Except.bind, pure, Except.pure]⟩
      · exact .inl fun _ _ _ _ => by simp [inGroup, h, failExpecting]
  | _ => exact .inl fun _ _ _ _ => ⟨_, rfl⟩

theorem acceptWord_eq (text : String) : acceptWord text = (do
    if ← peekWord text then
      let _ ← takeWord text
      return true
    else return false) := by
  funext ⟨rest, scope, written, leftover⟩
  cases rest with
  | nil => rfl
  | cons token rest =>
      cases h : Lookahead.word text (token :: rest) <;>
        simp [acceptWord, takeWord, bind_apply, map_apply, peekWord, ahead, here, h, skip]

instance localIn_acceptWord [PlainStable P] (text : String) :
    LocalIn P (acceptWord text) := by
  rw [acceptWord_eq]
  infer_instance

/-- An operator is read as the tokens of its characters. -/
theorem takePunct_eq (operator : String) (s : ParseState) :
    takePunct operator s = if Lookahead.punct operator s.rest = true then
        .ok (s.pos, { s with
          rest := s.rest.drop operator.toList.length
          written := (punctTokens operator.toList).reverse ++ s.written })
      else .error ⟨s.pos, .expected ["`" ++ operator ++ "`"] false⟩ := by
  simp only [takePunct, bind_apply, here, peekPunct, ahead]
  split
  · rfl
  · rfl

/-- Reading an operator that is told from what follows an argument. -/
theorem local_takePunct {operator : String} (hoperator : operator.toList ≠ [])
    (hblind : ∀ unclosed tokens after, P unclosed tokens → Closing unclosed after →
      Lookahead.punct operator (tokens ++ after) = Lookahead.punct operator tokens)
    (hread : ∀ unclosed tokens, P unclosed tokens → Lookahead.punct operator tokens = true →
      Q unclosed (tokens.drop operator.toList.length)) :
    Local P Q (fun _ => True) (takePunct operator) := by
  intro unclosed v hv
  have hstate : ∀ c : Surroundings unclosed, Lookahead.punct operator (c.state v).rest =
      Lookahead.punct operator v.tokens := fun c => hblind _ _ _ hv c.closing
  cases hpunct : Lookahead.punct operator v.tokens with
  | false =>
      refine .inl fun c => ?_
      rw [takePunct_eq, hstate, hpunct, if_neg Bool.false_ne_true]
      exact ⟨_, rfl⟩
  | true =>
      have hlength : operator.toList.length ≤ v.tokens.length := length_le_of_punctChars hpunct
      have hpos : 0 < operator.toList.length := List.length_pos_iff.2 hoperator
      obtain ⟨token, rest, htokens⟩ :=
        List.exists_cons_of_length_pos (Nat.lt_of_lt_of_le hpos hlength)
      refine .inr ⟨token.pos, ⟨v.tokens.drop operator.toList.length,
        (punctTokens operator.toList).reverse ++ v.noted, v.surplus⟩,
        hread _ _ hv hpunct, ?_, fun _ => ?_, fun c => ?_⟩
      · rw [List.length_drop]
        exact Nat.sub_le _ _
      · rw [List.length_drop]
        exact Nat.sub_lt (Nat.lt_of_lt_of_le hpos hlength) hpos
      · rw [takePunct_eq, hstate, hpunct, if_pos rfl]
        have hdrop : (v.tokens ++ c.after).drop operator.toList.length =
            v.tokens.drop operator.toList.length ++ c.after :=
          List.drop_append_of_le_length hlength
        simp [Surroundings.state, ParseState.pos, htokens] at hdrop ⊢
        exact hdrop

/-- An operator without a comma. -/
class Operator (operator : String) : Prop where
  noComma : ',' ∉ operator.toList

/-- An operator that is no angle bracket and has none in it. -/
class PlainOperator (operator : String) : Prop where
  ne_nil : operator.toList ≠ []
  plain : operator.toList.all isPlainChar = true

instance operator_of_plain (operator : String) [h : PlainOperator operator] :
    Operator operator :=
  ⟨fun hcomma => absurd (List.all_eq_true.1 h.plain _ hcomma) (by decide)⟩

instance blind_punct (operator : String) [h : Operator operator] :
    Blind (Lookahead.punct operator) :=
  ⟨fun tokens _ _ => punctChars_append h.noComma tokens⟩

instance localIn_peekPunct (operator : String) [Operator operator] :
    LocalIn P (peekPunct operator) := localIn_ahead

instance consumes_takePunct (operator : String) [PlainStable P] [h : PlainOperator operator] :
    Consumes P (takePunct operator) := by
  refine ⟨local_takePunct h.ne_nil (fun _ tokens _ _ hafter => ?_) ?_⟩
  · exact (blind_punct operator).append tokens hafter
  have hplain := h.plain
  unfold Lookahead.punct
  generalize operator.toList = chars at hplain
  intro unclosed tokens htokens hpunct
  induction chars generalizing tokens with
  | nil => exact htokens
  | cons c chars ih =>
      obtain ⟨hc, hchars⟩ := Bool.and_eq_true_iff.1 (List.all_cons.symm.trans hplain)
      obtain ⟨pos, joint, rest, rfl, -, hrest⟩ := exists_of_punctChars hpunct
      refine ih hchars rest (PlainStable.tail ?_ htokens) hrest
      exact hc

/-- An operator that may be next is read if it is. -/
theorem local_acceptPunct {operator : String} [Operator operator]
    (h : Local P P (fun _ => True) (takePunct operator)) :
    Local P P (fun read => read = true) (acceptPunct operator) :=
  (localIn_peekPunct operator).keeps.later fun _ =>
    Local.ite (h.first fun _ => (localIn_pure true).keeps) (local_pure Bool.false_ne_true)

/-- An operator that may be next, and what is read with or without it. -/
theorem local_accepting {operator : String} [Operator operator] {f : Bool → Parser α}
    (htake : Local P Q (fun _ => True) (takePunct operator)) (hfound : Local Q R reads (f true))
    (hmissing : Local P R reads (f false)) : Local P R reads (acceptPunct operator >>= f) := by
  have heq : acceptPunct operator >>= f = peekPunct operator >>= fun found =>
      if found = true then takePunct operator >>= fun _ => f true else f false := by
    unfold acceptPunct
    rw [bind_assoc]
    refine congrArg (peekPunct operator >>= ·) (funext fun found => ?_)
    cases found with
    | false => exact pure_bind false f
    | true =>
        show (takePunct operator >>= fun _ => pure true) >>= f =
          takePunct operator >>= fun _ => f true
        simp only [bind_assoc, pure_bind]
  rw [heq]
  exact (localIn_peekPunct operator).keeps.later fun _ =>
    (htake.later fun _ => hfound).ite hmissing

instance localIn_acceptPunct (operator : String) [Operator operator]
    [h : Consumes P (takePunct operator)] : LocalIn P (acceptPunct operator) :=
  ⟨(local_acceptPunct h.takes).mono fun _ => False.elim⟩

instance plain_pathSeparator : PlainOperator "::" := ⟨by decide, by decide⟩

instance plain_colon : PlainOperator ":" := ⟨by decide, by decide⟩

instance plain_equals : PlainOperator "=" := ⟨by decide, by decide⟩

instance plain_plus : PlainOperator "+" := ⟨by decide, by decide⟩

instance plain_question : PlainOperator "?" := ⟨by decide, by decide⟩

instance plain_tilde : PlainOperator "~" := ⟨by decide, by decide⟩

instance plain_hash : PlainOperator "#" := ⟨by decide, by decide⟩

instance plain_bang : PlainOperator "!" := ⟨by decide, by decide⟩

instance plain_unequal : PlainOperator "!=" := ⟨by decide, by decide⟩

instance plain_star : PlainOperator "*" := ⟨by decide, by decide⟩

instance plain_ampersand : PlainOperator "&" := ⟨by decide, by decide⟩

end Rowsmith.Source

/-
Arguments and what they say.

What an argument is can be read off its tokens: its name, and behind it
nothing, a text, a path or two names. The parser of an argument reads the
name and then has its own way for each option; the lemmas here say for each
of these ways what it accepts where the argument is all that is listed
(`accepted_optionName`, `accepted_pure`, `accepted_textValue`).

A record takes what it has not got yet. So what it holds of an option that
may be given once is the one argument among those taken that gives it
(`slot_cases`), and what comes out in the end is decided by the list of what
the arguments say (`Decided`). That leaves little for the order to change
(`Decided.eq_of_reordered`).
-/
import Mathlib.Data.List.Perm.Basic
import Rowsmith.Proofs.Source.Listing

namespace Rowsmith.Source

open Rowsmith.Source.Parser

-- ============================================================= outcomes

variable {α β : Type}

/-- The parser reads nothing and always comes to the same. -/
def Settles (p : Parser α) (outcome : Option α) : Prop :=
  ∀ s, (p s).toOption = outcome.map fun a => (a, s)

theorem settles_pure (a : α) : Settles (pure a) (some a) := fun _ => rfl

/-- An option may be given once. -/
theorem settles_setOnce {slot : Option α} (name : String) (value : α) {f : Option α → β} :
    Settles (setOnce name slot value >>= fun filled => pure (f filled))
      (if slot.isNone then some (f (some value)) else none) := by
  cases slot <;> exact fun _ => rfl

theorem accepted_bind {p : Parser α} {f : α → Parser β} {next : α → Option β}
    (hf : ∀ a, Settles (f a) (next a)) (s : ParseState) :
    accepted ((p >>= f) s) = (accepted (p s)).bind next := by
  rw [bind_apply]
  cases p s with
  | error e => rfl
  | ok result =>
      obtain ⟨a, t⟩ := result
      have ha := hf a t
      show accepted (f a t) = _
      cases hrun : f a t with
      | error e =>
          rw [hrun] at ha
          have hnone : next a = none := Option.map_eq_none_iff.1 ha.symm
          simp only [accepted]
          split <;> simp [hnone]
      | ok result =>
          rw [hrun] at ha
          obtain ⟨b, hb, rfl⟩ := Option.map_eq_some_iff.1 ha.symm
          simp only [accepted]
          split <;> simp [hb]

theorem accepted_eq_bind (result : Except SyntaxError (α × ParseState)) :
    accepted result = result.toOption.bind fun r => accepted (.ok r) := by
  cases result <;> rfl

theorem accepted_bind_eq (p : Parser α) (f : α → Parser β) (s : ParseState) :
    accepted ((p >>= f) s) = (p s).toOption.bind fun r => accepted (f r.1 r.2) := by
  rw [bind_apply]
  cases p s <;> rfl

/-- A parser that is local to an argument does the same on what is left of
it. -/
theorem accepted_local {p : Parser α} [h : LocalIn (Leaves 0) p] {tokens : List TokenTree}
    {unclosed : Nat} (htokens : Leaves 0 unclosed tokens) (scope : Position)
    (written : List TokenTree) :
    accepted (p ⟨tokens, scope, written, none⟩) = (p.run tokens .start).toOption := by
  let c : Surroundings unclosed := ⟨[], .nothing, scope, written, none⟩
  have hstate : c.state (.of tokens) = ⟨tokens, scope, written, none⟩ := by
    simp [c, Surroundings.state, View.of]
  have hstart : (Surroundings.none .start : Surroundings unclosed).state (.of tokens) =
      .start tokens .start := by
    simp [Surroundings.state, Surroundings.none, View.of, ParseState.start]
  rw [run_toOption, ← hstate, ← hstart]
  obtain hfail | ⟨a, w, -, -, -, hok⟩ := h.keeps unclosed (.of tokens) htokens
  · obtain ⟨e, he⟩ := hfail c
    obtain ⟨e', he'⟩ := hfail (.none .start)
    rw [he, he']
    rfl
  · rw [hok, hok]
    obtain ⟨rest, noted, surplus⟩ := w
    cases surplus <;> cases rest <;> rfl

-- =============================================================== values

/-- What stands behind a mark. -/
def behind? (mark : Char) : List TokenTree → Option (List TokenTree)
  | .punct _ char _ :: rest => if char = mark then some rest else none
  | _ => none

theorem leaves_behind {mark : Char} (hmark : isPlainChar mark = true) {depth unclosed : Nat}
    {value rest : List TokenTree} (h : behind? mark value = some rest)
    (hvalue : Leaves depth unclosed value) : Leaves depth unclosed rest := by
  unfold behind? at h
  split at h
  · split at h
    case isTrue hchar =>
      obtain rfl := Option.some.inj h
      refine PlainStable.tail ?_ hvalue
      exact hchar ▸ hmark
    case isFalse => cases h
  · cases h

/-- Nothing where there is no value. -/
def bare? (value : List TokenTree) (a : α) : Option α := if value.isEmpty then some a else none

/-- A string literal. -/
def string? : List TokenTree → Option String
  | [.literal _ text] => stringValue? text
  | _ => none

/-- A text that is given as a value. -/
def text? (value : List TokenTree) : Option String := (behind? '=' value).bind string?

variable {scope : Position} {written : List TokenTree}

theorem accepted_pure (value : List TokenTree) (a : α) :
    accepted ((pure a : Parser α) ⟨value, scope, written, none⟩) = bare? value a := by
  cases value <;> rfl

theorem accepted_mark {operator : String} (mark : Char) (hmark : operator.toList = [mark])
    (p : Parser α) (value : List TokenTree) :
    accepted ((takePunct operator >>= fun _ => p) ⟨value, scope, written, none⟩) =
      (behind? mark value).bind fun rest =>
        accepted (p ⟨rest, scope, .punct .start mark false :: written, none⟩) := by
  rw [bind_apply, takePunct_eq, Lookahead.punct, hmark]
  cases value with
  | nil => rfl
  | cons token rest =>
      cases token with
      | punct pos char joint =>
          by_cases hchar : char = mark
          · simp [Lookahead.punctChars, behind?, hchar, punctTokens]
          · simp [Lookahead.punctChars, behind?, hchar, accepted]
      | _ => rfl

theorem accepted_string (value : List TokenTree) :
    accepted (Parser.string ⟨value, scope, written, none⟩) = string? value := by
  cases value with
  | nil => rfl
  | cons token rest =>
      cases token with
      | literal pos text =>
          cases htext : stringValue? text with
          | none => cases rest <;> simp [Parser.string, string?, htext] <;> rfl
          | some value => cases rest <;> simp [Parser.string, string?, htext, accepted]
      | _ => rfl

theorem accepted_textValue (next : String → Option α) {f : String → Parser α}
    (hf : ∀ text, Settles (f text) (next text)) (value : List TokenTree) :
    accepted ((textValue >>= f) ⟨value, scope, written, none⟩) = (text? value).bind next := by
  rw [accepted_bind hf, textValue, accepted_mark '=' rfl]
  simp only [accepted_string]
  rfl

-- ================================================================ names

/-- An argument with a name, which decides how it goes on. -/
theorem accepted_named {names : List String} {body : String → Parser α} {name : String}
    {pos : Position} {value : List TokenTree} (h : name ∈ names) :
    accepted ((optionName names >>= body) (.start (.word pos name :: value) .start)) =
      accepted (body name ⟨value, .start, [.word pos name], none⟩) := by
  have hname : (names.any fun w => Lookahead.word w (.word pos name :: value)) = true :=
    List.any_eq_true.2 ⟨name, h, beq_self_eq_true name⟩
  simp only [optionName, bind_apply, ParseState.start, ahead, Lookahead.oneOf, hname, if_true]
  rfl

theorem accepted_unnamed {names : List String} {body : String → Parser α}
    {arg : List TokenTree} (h : ∀ pos name value, arg = .word pos name :: value → name ∉ names) :
    accepted ((optionName names >>= body) (.start arg .start)) = none := by
  have hname : (names.any fun w => Lookahead.word w arg) = false := by
    refine Bool.eq_false_iff.2 fun hany => ?_
    obtain ⟨name, hmem, hword⟩ := List.any_eq_true.1 hany
    cases arg with
    | nil => cases hword
    | cons token value =>
        cases token with
        | word pos found =>
            obtain rfl := eq_of_beq hword
            exact h pos found value rfl hmem
        | _ => cases hword
  simp only [optionName, bind_apply, ParseState.start, ahead, Lookahead.oneOf, hname,
    Bool.false_eq_true, if_false]
  rfl

/-- An argument begins with a name, which decides how it goes on. -/
theorem accepted_optionName {names : List String} {body : String → Parser α}
    {arg : List TokenTree} {result : Option α}
    (hnamed : ∀ pos name value, arg = .word pos name :: value → name ∈ names →
      accepted (body name ⟨value, .start, [.word pos name], none⟩) = result)
    (hunnamed : (∀ pos name value, arg = .word pos name :: value → name ∉ names) →
      result = none) :
    accepted ((optionName names >>= body) (.start arg .start)) = result := by
  by_cases h : ∃ pos name value, arg = .word pos name :: value ∧ name ∈ names
  · obtain ⟨pos, name, value, rfl, hname⟩ := h
    rw [accepted_named hname, hnamed pos name value rfl hname]
  · have hnone : ∀ pos name value, arg = .word pos name :: value → name ∉ names :=
      fun pos name value harg hname => h ⟨pos, name, value, harg, hname⟩
    rw [accepted_unnamed hnone, hunnamed hnone]

instance localIn_optionName {P : Nat → List TokenTree → Prop} [PlainStable P]
    (names : List String) : LocalIn P (optionName names) := by
  unfold optionName
  infer_instance

theorem optionName_closing (names : List String) {s : ParseState} {unclosed : Nat}
    (h : Closing unclosed s.rest) : ∃ e, optionName names s = .error e := by
  obtain ⟨rest, scope, written, leftover⟩ := s
  have hname : (names.any fun w => Lookahead.word w rest) = false := by
    cases h <;> simp [Lookahead.word]
  exact ⟨_, by simp only [optionName, bind_apply, ahead, Lookahead.oneOf, hname,
    Bool.false_eq_true, if_false]; rfl⟩

instance localIn_textValue {P : Nat → List TokenTree → Prop} [PlainStable P] :
    LocalIn P textValue := by
  unfold textValue
  infer_instance

instance localIn_setOnce {P : Nat → List TokenTree → Prop} (name : String) (slot : Option α)
    (value : α) : LocalIn P (setOnce name slot value) := by
  cases slot with
  | none => exact localIn_pure _
  | some _ => exact localIn_fail _

-- ================================================================= once

section Once

variable {σ : Type} {slot : Option β} {said : List σ} {slot? : σ → Option β}

/-- The slot of an option that may be given once is still free, or it is
given twice. -/
theorem slot_cases (h : slot.toList = said.filterMap slot?) {x : σ} {b : β}
    (hx : slot? x = some b) :
    (slot = none ∧ (some b).toList = (said ++ [x]).filterMap slot?) ∨
    (slot.isNone = false ∧ ¬ ((said ++ [x]).filterMap slot?).length ≤ 1) := by
  rw [List.filterMap_append, ← h, List.filterMap_cons_some hx]
  cases slot with
  | none => exact .inl ⟨rfl, rfl⟩
  | some other => exact .inr ⟨rfl, by simp⟩

theorem length_le_one (h : slot.toList = said.filterMap slot?) :
    (said.filterMap slot?).length ≤ 1 := by
  rw [← h]
  exact Option.length_toList_le

theorem findSome?_eq (h : slot.toList = said.filterMap slot?) : said.findSome? slot? = slot := by
  rw [← List.head?_filterMap, ← h]
  cases slot <;> rfl

/-- An option is given if one of its arguments is there. -/
theorem exists_mem_iff (slot? : σ → Option β) {make : β → σ}
    (hmake : ∀ x b, slot? x = some b ↔ x = make b) :
    (∃ b, make b ∈ said) ↔ (said.findSome? slot?).isSome = true := by
  rw [List.findSome?_isSome_iff]
  constructor
  · intro ⟨b, hmem⟩
    exact ⟨make b, hmem, Option.isSome_iff_exists.2 ⟨b, (hmake _ b).2 rfl⟩⟩
  · intro ⟨x, hmem, hx⟩
    obtain ⟨b, hb⟩ := Option.isSome_iff_exists.1 hx
    exact ⟨b, (hmake x b).1 hb ▸ hmem⟩

/-- What may be given once is the same in every order. -/
theorem findSome?_eq_of_perm {said' : List σ} (hperm : said.Perm said')
    (hle : (said.filterMap slot?).length ≤ 1) : said.findSome? slot? = said'.findSome? slot? := by
  have hfound := hperm.filterMap slot?
  rw [← List.head?_filterMap, ← List.head?_filterMap]
  generalize said.filterMap slot? = given at hfound hle
  cases given with
  | nil => rw [hfound.nil_eq]
  | cons b given =>
      obtain rfl := List.eq_nil_of_length_eq_zero (Nat.le_zero.1 (Nat.le_of_succ_le_succ hle))
      rw [List.singleton_perm.1 hfound]

end Once

-- ============================================================ decisions

/-- Arguments are all that decides: they give what they say if all can be
read and are accepted together, and otherwise nothing. -/
def Decided {σ ω : Type} (readings : List (Option σ)) (Accepted : List σ → Prop)
    (saidBy : List σ → ω) (result : Option ω) : Prop :=
  (∃ said, readings = said.map some ∧ Accepted said ∧ result = some (saidBy said)) ∨
  (result = none ∧ ∀ said, readings = said.map some → ¬ Accepted said)

/-- The same arguments in another order, where those of one kind have kept
theirs. -/
structure Reordered {σ κ : Type} (kept? : σ → Option κ) (readings readings' : List (Option σ)) :
    Prop where
  perm : readings.Perm readings'
  kept : readings.filterMap (·.bind kept?) = readings'.filterMap (·.bind kept?)

section Decided

variable {σ ω κ : Type} {readings readings' : List (Option σ)} {Accepted : List σ → Prop}
  {saidBy : List σ → ω} {result result' : Option ω} {kept? : σ → Option κ}

theorem Reordered.symm (h : Reordered kept? readings readings') :
    Reordered kept? readings' readings := ⟨h.perm.symm, h.kept.symm⟩

theorem Decided.isSome_iff (h : Decided readings Accepted saidBy result) :
    result.isSome = true ↔ ∃ said, readings = said.map some ∧ Accepted said := by
  obtain ⟨said, hsaid, haccepted, rfl⟩ | ⟨rfl, hnot⟩ := h
  · exact ⟨fun _ => ⟨said, hsaid, haccepted⟩, fun _ => rfl⟩
  · refine ⟨fun h => Bool.noConfusion h, fun ⟨said, hsaid, haccepted⟩ => ?_⟩
    exact absurd haccepted (hnot said hsaid)

theorem said_unique {said said' : List σ} (h : readings = said.map some)
    (h' : readings = said'.map some) : said = said' :=
  List.map_injective_iff.2 (Option.some_injective σ) (h.symm.trans h')

/-- If all arguments can be read, so they can in another order. -/
theorem Reordered.exists_said (h : Reordered kept? readings readings') {said : List σ}
    (hsaid : readings = said.map some) :
    ∃ said', readings' = said'.map some ∧ said.Perm said' ∧
      said.filterMap kept? = said'.filterMap kept? := by
  obtain ⟨hperm, hkept⟩ := h
  subst hsaid
  have hread : ∀ x ∈ readings', ∃ a, x = some a := by
    intro x hx
    obtain ⟨a, -, rfl⟩ := List.mem_map.1 (hperm.mem_iff.2 hx)
    exact ⟨a, rfl⟩
  obtain ⟨said', hpartners⟩ := Related.exists_forall₂ hread
  have hsaid' := Related.map_eq (f := id) hpartners fun _ _ h => h
  rw [List.map_id] at hsaid'
  subst hsaid'
  rw [List.filterMap_map, List.filterMap_map] at hkept
  exact ⟨said', rfl, (List.map_perm_map_iff (Option.some_injective σ)).1 hperm, hkept⟩

theorem Decided.eq_of_reordered (h : Decided readings Accepted saidBy result)
    (h' : Decided readings' Accepted saidBy result') (horder : Reordered kept? readings readings')
    (hsame : ∀ {said said' : List σ}, said.Perm said' →
      said.filterMap kept? = said'.filterMap kept? → Accepted said →
      Accepted said' ∧ saidBy said = saidBy said') : result = result' := by
  obtain ⟨said, hsaid, haccepted, rfl⟩ | ⟨rfl, hnot⟩ := h
  · obtain ⟨said', hsaid', hperm, hkept⟩ := horder.exists_said hsaid
    obtain ⟨haccepted', hsame⟩ := hsame hperm hkept haccepted
    obtain ⟨said'', hsaid'', -, rfl⟩ | ⟨-, hnot⟩ := h'
    · rw [hsame, said_unique hsaid' hsaid'']
    · exact absurd haccepted' (hnot said' hsaid')
  · obtain ⟨said', hsaid', haccepted', rfl⟩ | ⟨rfl, -⟩ := h'
    · obtain ⟨said, hsaid, hperm, hkept⟩ := horder.symm.exists_said hsaid'
      exact absurd (hsame hperm hkept haccepted').1 (hnot said hsaid)
    · rfl

end Decided

/-- The same tokens in another order say the same in another order. -/
theorem Reordered.of_perm {σ κ : Type} {read? : List TokenTree → Option σ} {kept? : σ → Option κ}
    {name : String} (hkept : ∀ arg, Lookahead.word name arg = false → (read? arg).bind kept? = none)
    {args args' : List (List TokenTree)} (hperm : args.Perm args')
    (horder : args.filter (Lookahead.word name) = args'.filter (Lookahead.word name)) :
    Reordered kept? (args.map read?) (args'.map read?) := by
  have hnamed : ∀ l : List (List TokenTree), (l.map read?).filterMap (·.bind kept?) =
      (l.filter (Lookahead.word name)).filterMap fun arg => (read? arg).bind kept? := by
    intro l
    rw [List.filterMap_map, List.filterMap_filter]
    refine List.filterMap_congr fun arg _ => ?_
    cases harg : Lookahead.word name arg with
    | true => rfl
    | false => exact hkept arg harg
  exact ⟨hperm.map read?, by rw [hnamed, hnamed, horder]⟩

end Rowsmith.Source

/-
How steps of a run compose. A step either fails or gives a value and the
progress after it, and what is proved about runs is proved about steps
that did not fail: every statement here says exactly when a composed step
gives a value, in terms of its parts.

# Two directions

A fact about a run that succeeded is read off its steps, from the first
to the last (`mapM_ok`, `zipIdx_forM_ok`). That a run succeeds is shown
by giving the progress after every step (`mapM_succeeds`,
`zipIdx_forM_succeeds`). In both directions an invariant of the progress
is carried along, and what is known of a value may refer to the progress
after it, as long as later progress keeps it.
-/
import Rowsmith.Schema.Resolve
import Mathlib.Data.List.Forall2

namespace Rowsmith.Step

variable {α β : Type} {p p' : Progress}

-- ========================================================== single steps

/-- A step that depends on another gives a value when both do. -/
theorem bind_eq_ok {x : Step α} {f : α → Step β} {b : β} :
    (x >>= f) p = .ok (b, p') ↔ ∃ a q, x p = .ok (a, q) ∧ f a q = .ok (b, p') := by
  show Except.bind (x p) (fun r => f r.1 r.2) = _ ↔ _
  cases x p with
  | error e => simp [Except.bind]
  | ok r => simp [Except.bind, Prod.ext_iff, and_assoc]

theorem pure_eq_ok {a b : α} : (pure a : Step α) p = .ok (b, p') ↔ b = a ∧ p' = p := by
  show Except.ok (a, p) = Except.ok (b, p') ↔ _
  rw [Except.ok.injEq, Prod.mk.injEq]
  exact ⟨fun h => ⟨h.1.symm, h.2.symm⟩, fun h => ⟨h.1.symm, h.2.symm⟩⟩

theorem reject_ne_ok {text : String} {r : α × Progress} : (reject text : Step α) p ≠ .ok r := by
  intro h
  cases h

theorem require_eq_ok {condition : Bool} {text : String} {u : Unit} :
    require condition text p = .ok (u, p') ↔ condition = true ∧ p' = p := by
  cases condition with
  | false => exact ⟨fun h => absurd h reject_ne_ok, fun h => by cases h.1⟩
  | true =>
      show (pure () : Step Unit) p = .ok (u, p') ↔ _
      rw [pure_eq_ok]
      simp

theorem require_pure_eq_ok {condition : Bool} {text : String} {a b : α} :
    (do require condition text; pure a : Step α) p = .ok (b, p') ↔
      condition = true ∧ b = a ∧ p' = p := by
  rw [bind_eq_ok]
  constructor
  · rintro ⟨_, q, hrequire, h⟩
    obtain ⟨hcondition, rfl⟩ := require_eq_ok.1 hrequire
    exact ⟨hcondition, pure_eq_ok.1 h⟩
  · rintro ⟨hcondition, h⟩
    exact ⟨(), p, require_eq_ok.2 ⟨hcondition, rfl⟩, pure_eq_ok.2 h⟩

/-- Recording where a step failed does not bear on its success. -/
theorem located_eq_ok {model : String} {field : Option String} {step : Step α}
    {r : α × Progress} : located model field step p = .ok r ↔ step p = .ok r := by
  unfold located
  cases step p with
  | error e => simp
  | ok r' => simp

theorem get_bind {f : Progress → Step α} : ((get : Step Progress) >>= f) p = f p p := rfl

theorem modify_eq_ok {change : Progress → Progress} {u : Unit} :
    (modify change : Step Unit) p = .ok (u, p') ↔ p' = change p := by
  show Except.ok ((), change p) = Except.ok (u, p') ↔ _
  rw [Except.ok.injEq, Prod.mk.injEq]
  exact ⟨fun h => h.2.symm, fun h => ⟨rfl, h.symm⟩⟩

-- ============================================================ many steps

theorem mapM_cons_eq_ok {f : α → Step β} {a : α} {l : List α} {r : List β} :
    (a :: l).mapM f p = .ok (r, p') ↔
      ∃ b bs q, f a p = .ok (b, q) ∧ l.mapM f q = .ok (bs, p') ∧ r = b :: bs := by
  rw [List.mapM_cons, bind_eq_ok]
  constructor
  · rintro ⟨b, q, hb, h⟩
    obtain ⟨bs, q', hbs, h⟩ := bind_eq_ok.1 h
    obtain ⟨rfl, rfl⟩ := pure_eq_ok.1 h
    exact ⟨b, bs, q, hb, hbs, rfl⟩
  · rintro ⟨b, bs, q, hb, hbs, rfl⟩
    exact ⟨b, q, hb, bind_eq_ok.2 ⟨bs, p', hbs, pure_eq_ok.2 ⟨rfl, rfl⟩⟩⟩

/-- Recording where each step of a list failed does not bear on their
success. -/
theorem mapM_located_eq_ok {model : String} {field : α → Option String} {f : α → Step β}
    {l : List α} {bs : List β} :
    l.mapM (fun a => located model (field a) (f a)) p = .ok (bs, p') ↔
      l.mapM f p = .ok (bs, p') := by
  induction l generalizing p bs with
  | nil => exact Iff.rfl
  | cons a l ih => simp only [mapM_cons_eq_ok, located_eq_ok, ih]

/-- What every step of a list establishes and later steps keep holds of
all of them at the end. -/
theorem mapM_ok {f : α → Step β} {l : List α} {bs : List β} (I : Progress → Prop)
    (R : α → β → Progress → Prop)
    (step : ∀ a ∈ l, ∀ b q q', I q → f a q = .ok (b, q') →
      I q' ∧ R a b q' ∧ ∀ a' b', R a' b' q → R a' b' q')
    (hp : I p) (h : l.mapM f p = .ok (bs, p')) :
    I p' ∧ List.Forall₂ (fun a b => R a b p') l bs ∧ ∀ a' b', R a' b' p → R a' b' p' := by
  induction l generalizing p bs with
  | nil =>
      obtain ⟨rfl, rfl⟩ := pure_eq_ok.1 h
      exact ⟨hp, .nil, fun _ _ hR => hR⟩
  | cons a l ih =>
      obtain ⟨b, bs, q, hb, hbs, rfl⟩ := mapM_cons_eq_ok.1 h
      obtain ⟨hq, hR, keep⟩ := step a List.mem_cons_self b p q hp hb
      obtain ⟨hp', hall, keep'⟩ := ih (fun a' ha' => step a' (List.mem_cons_of_mem _ ha')) hq hbs
      exact ⟨hp', .cons (keep' _ _ hR) hall, fun a' b' h => keep' _ _ (keep _ _ h)⟩

theorem mapM_keeps {f : α → Step β} {l : List α} {bs : List β} (I : Progress → Prop)
    (step : ∀ a ∈ l, ∀ b q q', I q → f a q = .ok (b, q') → I q')
    (hp : I p) (h : l.mapM f p = .ok (bs, p')) : I p' :=
  (mapM_ok I (fun _ _ _ => True)
    (fun a ha b q q' hq hb => ⟨step a ha b q q' hq hb, trivial, fun _ _ h => h⟩) hp h).1

/-- What the steps of a list add to some part of the progress, each for its
own value, is added for one of the values. -/
theorem mapM_adds {γ : Type} {f : α → Step β} {l : List α} {bs : List β}
    (view : Progress → List γ) (owns : β → γ → Prop)
    (step : ∀ a ∈ l, ∀ b q q', f a q = .ok (b, q') → ∀ c ∈ view q', c ∈ view q ∨ owns b c)
    (h : l.mapM f p = .ok (bs, p')) : ∀ c ∈ view p', c ∈ view p ∨ ∃ b ∈ bs, owns b c := by
  induction l generalizing p bs with
  | nil =>
      obtain ⟨rfl, rfl⟩ := pure_eq_ok.1 h
      intro c hc
      exact Or.inl hc
  | cons a l ih =>
      obtain ⟨b, bs, q, hb, hbs, rfl⟩ := mapM_cons_eq_ok.1 h
      intro c hc
      rcases ih (fun a' ha' => step a' (List.mem_cons_of_mem _ ha')) hbs c hc with hq | ⟨b', hb', hc⟩
      · apply (step a List.mem_cons_self b p q hb c hq).imp_right
        intro howns
        exact ⟨b, List.mem_cons_self, howns⟩
      · exact Or.inr ⟨b', List.mem_cons_of_mem _ hb', hc⟩

/-- If every step of a list succeeds with the value it is meant to give,
so does the list of them. -/
theorem mapM_succeeds {f : α → Step β} {l : List α} {bs : List β} (I : Progress → Prop)
    (R : α → β → Prop)
    (step : ∀ a ∈ l, ∀ b q, R a b → I q → ∃ q', f a q = .ok (b, q') ∧ I q')
    (hp : I p) (h : List.Forall₂ R l bs) : ∃ p', l.mapM f p = .ok (bs, p') ∧ I p' := by
  induction h generalizing p with
  | nil => exact ⟨p, pure_eq_ok.2 ⟨rfl, rfl⟩, hp⟩
  | @cons a b l bs hab _ ih =>
      obtain ⟨q, hb, hq⟩ := step a List.mem_cons_self b p hab hp
      obtain ⟨p', hbs, hp'⟩ := ih (fun a' ha' => step a' (List.mem_cons_of_mem _ ha')) hq
      exact ⟨p', mapM_cons_eq_ok.2 ⟨b, bs, q, hb, hbs, rfl⟩, hp'⟩

theorem forM_cons_eq_ok {f : α → Step Unit} {a : α} {l : List α} {u : Unit} :
    (a :: l).forM f p = .ok (u, p') ↔ ∃ q, f a p = .ok ((), q) ∧ l.forM f q = .ok (u, p') := by
  show (f a >>= fun _ => l.forM f) p = _ ↔ _
  rw [bind_eq_ok]
  exact ⟨fun ⟨_, q, h⟩ => ⟨q, h⟩, fun ⟨q, h⟩ => ⟨(), q, h⟩⟩

-- ======================================================= numbered steps

/-- Steps numbered from `k` on carry an invariant that knows how many of
them were done. -/
private theorem zipIdx_forM_ok_from {f : α × Nat → Step Unit} (I : Nat → Progress → Prop)
    (l : List α) {u : Unit} (k : Nat)
    (step : ∀ i a q q', l[i]? = some a → I (k + i) q → f (a, k + i) q = .ok ((), q') →
      I (k + i + 1) q')
    (hp : I k p) (h : (l.zipIdx k).forM f p = .ok (u, p')) : I (k + l.length) p' := by
  induction l generalizing k p with
  | nil =>
      obtain ⟨-, rfl⟩ := pure_eq_ok.1 h
      exact hp
  | cons a l ih =>
      rw [List.zipIdx_cons] at h
      obtain ⟨q, ha, h⟩ := forM_cons_eq_ok.1 h
      have hq : I (k + 1) q := step 0 a p q rfl hp ha
      have hrest := ih (k + 1) (fun i a' q q' hi hI hf => by
        have hk : k + 1 + i = k + (i + 1) := by omega
        rw [hk] at hI hf ⊢
        exact step (i + 1) a' q q' hi hI hf) hq h
      rw [List.length_cons, Nat.add_comm l.length, ← Nat.add_assoc]
      exact hrest

/-- Numbered steps carry an invariant that knows how many of them were
done. -/
theorem zipIdx_forM_ok {f : α × Nat → Step Unit} {l : List α} (I : Nat → Progress → Prop)
    (step : ∀ i a q q', l[i]? = some a → I i q → f (a, i) q = .ok ((), q') → I (i + 1) q')
    (hp : I 0 p) {u : Unit} (h : l.zipIdx.forM f p = .ok (u, p')) : I l.length p' := by
  have := zipIdx_forM_ok_from I l 0 (fun i => by rw [Nat.zero_add]; exact step i) hp h
  rwa [Nat.zero_add] at this

private theorem zipIdx_forM_succeeds_from {f : α × Nat → Step Unit} (I : Nat → Progress → Prop)
    (l : List α) (k : Nat)
    (step : ∀ i a q, l[i]? = some a → I (k + i) q →
      ∃ q', f (a, k + i) q = .ok ((), q') ∧ I (k + i + 1) q')
    (hp : I k p) : ∃ p', (l.zipIdx k).forM f p = .ok ((), p') ∧ I (k + l.length) p' := by
  induction l generalizing k p with
  | nil => exact ⟨p, pure_eq_ok.2 ⟨rfl, rfl⟩, hp⟩
  | cons a l ih =>
      obtain ⟨q, ha, hq⟩ := step 0 a p rfl hp
      obtain ⟨p', h, hp'⟩ := ih (k + 1) (fun i a' q hi hI => by
        have hk : k + 1 + i = k + (i + 1) := by omega
        rw [hk] at hI ⊢
        exact step (i + 1) a' q hi hI) hq
      rw [List.length_cons, Nat.add_comm l.length, ← Nat.add_assoc]
      exact ⟨p', by rw [List.zipIdx_cons]; exact forM_cons_eq_ok.2 ⟨q, ha, h⟩, hp'⟩

theorem zipIdx_forM_succeeds {f : α × Nat → Step Unit} {l : List α} (I : Nat → Progress → Prop)
    (step : ∀ i a q, l[i]? = some a → I i q → ∃ q', f (a, i) q = .ok ((), q') ∧ I (i + 1) q')
    (hp : I 0 p) : ∃ p', l.zipIdx.forM f p = .ok ((), p') ∧ I l.length p' := by
  have := zipIdx_forM_succeeds_from I l 0 (fun i => by rw [Nat.zero_add]; exact step i) hp
  rwa [Nat.zero_add] at this

end Rowsmith.Step

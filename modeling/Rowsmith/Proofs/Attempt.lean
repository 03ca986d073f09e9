/-
How attempts compose. An attempt gives a value or a failure, and one that
is made of others gives a value exactly when they do, and otherwise fails
as the first of them does that fails.
-/
import Rowsmith.Proofs.Related

namespace Rowsmith.Attempt

variable {α β ε : Type}

/-- An attempt that depends on another gives a value when both do. -/
theorem bind_eq_ok {x : Except ε α} {f : α → Except ε β} {b : β} :
    (x >>= f) = .ok b ↔ ∃ a, x = .ok a ∧ f a = .ok b := by
  show Except.bind x f = _ ↔ _
  cases x with
  | error e => simp [Except.bind]
  | ok a => simp [Except.bind]

/-- An attempt that depends on another fails as the first of the two does
that fails. -/
theorem bind_eq_error {x : Except ε α} {f : α → Except ε β} {e : ε} :
    (x >>= f) = .error e ↔ x = .error e ∨ ∃ a, x = .ok a ∧ f a = .error e := by
  show Except.bind x f = _ ↔ _
  cases x with
  | error e' => simp [Except.bind]
  | ok a => simp [Except.bind]

/-- What comes behind an attempt only matters for the values it gives. -/
theorem bind_congr_ok {x : Except ε α} {f g : α → Except ε β} (h : ∀ a, x = .ok a → f a = g a) :
    (x >>= f) = (x >>= g) := by
  cases x with
  | error e => rfl
  | ok a => exact h a rfl

theorem pure_eq_ok {a b : α} : (pure a : Except ε α) = .ok b ↔ a = b := by
  show Except.ok a = Except.ok b ↔ _
  rw [Except.ok.injEq]

/-- What a failure is turned into does not matter for success. -/
theorem mapError_eq_ok {ε' : Type} {f : ε → ε'} {x : Except ε α} {a : α} :
    x.mapError f = .ok a ↔ x = .ok a := by
  cases x with
  | error e => simp [Except.mapError]
  | ok b => simp [Except.mapError]

theorem toOption_eq_some {x : Except ε α} {a : α} : x.toOption = some a ↔ x = .ok a := by
  cases x with
  | error e => simp [Except.toOption]
  | ok b => simp [Except.toOption]

theorem toOption_bind {x : Except ε α} {f : α → Except ε β} :
    (x >>= f).toOption = x.toOption >>= fun a => (f a).toOption := by
  cases x <;> rfl

theorem exists_ok {x : Except ε α} (h : x.toOption.isSome = true) : ∃ a, x = .ok a := by
  obtain ⟨a, ha⟩ := Option.isSome_iff_exists.1 h
  exact ⟨a, toOption_eq_some.1 ha⟩

theorem exists_ok_iff {x : Except ε α} : (∃ a, x = .ok a) ↔ x.toOption.isSome = true :=
  ⟨fun ⟨a, ha⟩ => by rw [ha]; rfl, exists_ok⟩

/-- A numbered list is cut before an item by cutting the list there. -/
theorem zipIdx_cut_iff {l : List α} {before : List (α × Nat)} {a : α} {i : Nat} :
    (∃ after, l.zipIdx = before ++ (a, i) :: after) ↔
      l[i]? = some a ∧ before = (l.take i).zipIdx := by
  constructor
  · intro ⟨after, h⟩
    obtain ⟨first, rest, rfl, rfl, hrest⟩ := List.zipIdx_eq_append_iff.1 h
    cases rest with
    | nil => cases hrest
    | cons a' rest =>
        obtain ⟨rfl, rfl⟩ := Prod.mk.inj (List.cons.inj hrest).1
        rw [Nat.zero_add]
        refine ⟨?_, by rw [List.take_left]⟩
        rw [List.getElem?_append_right (Nat.le_refl _), Nat.sub_self, List.getElem?_cons_zero]
  · intro ⟨hi, hbefore⟩
    obtain ⟨hlt, rfl⟩ := List.getElem?_eq_some_iff.1 hi
    have hsplit : l = l.take i ++ l[i] :: l.drop (i + 1) := by
      rw [← List.drop_eq_getElem_cons hlt, List.take_append_drop]
    have hlength : (l.take i).length = i := by
      rw [List.length_take]
      omega
    refine ⟨(l.drop (i + 1)).zipIdx (i + 1), List.zipIdx_eq_append_iff.2 ⟨_, _, hsplit, hbefore, ?_⟩⟩
    rw [hlength, Nat.zero_add, List.zipIdx_cons]

theorem mapM_eq_ok_iff {f : α → Except ε β} {l : List α} {bs : List β} :
    l.mapM f = .ok bs ↔ List.Forall₂ (fun a b => f a = .ok b) l bs := by
  induction l generalizing bs with
  | nil =>
      rw [List.mapM_nil, pure_eq_ok]
      constructor
      · intro h; subst h; exact .nil
      · intro h; cases h; rfl
  | cons a l ih =>
      rw [List.mapM_cons, bind_eq_ok]
      constructor
      · intro h
        obtain ⟨b, hb, hrest⟩ := h
        obtain ⟨bs', hbs, h⟩ := bind_eq_ok.1 hrest
        obtain rfl := pure_eq_ok.1 h
        exact .cons hb (ih.1 hbs)
      · intro h
        cases h with
        | cons hb hbs => exact ⟨_, hb, bind_eq_ok.2 ⟨_, ih.2 hbs, rfl⟩⟩

theorem mapM_succeeds {f : α → Except ε β} {l : List α} (h : ∀ a ∈ l, ∃ b, f a = .ok b) :
    ∃ bs, l.mapM f = .ok bs := by
  obtain ⟨bs, hbs⟩ := Related.exists_forall₂ h
  exact ⟨bs, mapM_eq_ok_iff.2 hbs⟩

/-- Attempts that build on each other give a value if each does on any
value before it. -/
theorem foldlM_succeeds {f : β → α → Except ε β} {l : List α}
    (step : ∀ a ∈ l, ∀ b, ∃ b', f b a = .ok b') (b : β) : ∃ b', l.foldlM f b = .ok b' := by
  induction l generalizing b with
  | nil => exact ⟨b, rfl⟩
  | cons a l ih =>
      obtain ⟨ha, hl⟩ := List.forall_mem_cons.1 step
      obtain ⟨b₁, hb₁⟩ := ha b
      obtain ⟨b', hb'⟩ := ih hl b₁
      exact ⟨b', bind_eq_ok.2 ⟨b₁, hb₁, hb'⟩⟩

/-- Attempts that build on each other come out as others that agree with
them on the items. -/
theorem foldlM_congr {f g : β → α → Except ε β} {l : List α} (h : ∀ a ∈ l, ∀ b, f b a = g b a)
    (b : β) : l.foldlM f b = l.foldlM g b := by
  induction l generalizing b with
  | nil => rfl
  | cons a l ih =>
      obtain ⟨ha, hl⟩ := List.forall_mem_cons.1 h
      rw [List.foldlM_cons, List.foldlM_cons, ha b]
      exact congrArg (g b a >>= ·) (funext fun b' => ih hl b')

theorem mapM_congr {f g : α → Except ε β} {l : List α} (h : ∀ a ∈ l, f a = g a) :
    l.mapM f = l.mapM g := by
  induction l with
  | nil => rfl
  | cons a l ih =>
      obtain ⟨ha, hl⟩ := List.forall_mem_cons.1 h
      rw [List.mapM_cons, List.mapM_cons, ha, ih hl]

/-- Checks on the items of a list pass when each of them does. -/
theorem forM_eq_ok_iff {f : α → Except ε Unit} {l : List α} :
    l.forM f = .ok () ↔ ∀ a ∈ l, f a = .ok () := by
  induction l with
  | nil => exact ⟨fun _ _ h => (nomatch h), fun _ => rfl⟩
  | cons a l ih =>
      rw [List.forall_mem_cons, ← ih]
      show (f a >>= fun _ => l.forM f) = _ ↔ _
      rw [bind_eq_ok]
      exact ⟨fun ⟨_, ha, h⟩ => ⟨ha, h⟩, fun ⟨ha, h⟩ => ⟨(), ha, h⟩⟩

/-- Steps that each append to what can be seen of a state append all that
they append alone. -/
theorem foldlM_appends {γ : Type} {f : β → α → Except ε β} {l : List α} (view : β → List γ)
    (added : α → List γ)
    (step : ∀ a ∈ l, ∀ b, ∃ b', f b a = .ok b' ∧ view b' = view b ++ added a) (b : β) :
    ∃ b', l.foldlM f b = .ok b' ∧ view b' = view b ++ l.flatMap added := by
  induction l generalizing b with
  | nil => exact ⟨b, rfl, by simp⟩
  | cons a l ih =>
      obtain ⟨b₁, hb₁, hview₁⟩ := step a List.mem_cons_self b
      obtain ⟨b₂, hb₂, hview₂⟩ := ih (fun a' ha' => step a' (List.mem_cons_of_mem _ ha')) b₁
      refine ⟨b₂, ?_, ?_⟩
      · rw [List.foldlM_cons]
        exact bind_eq_ok.2 ⟨b₁, hb₁, hb₂⟩
      · rw [hview₂, hview₁, List.flatMap_cons, List.append_assoc]

/-- What each of several attempts that build on each other keeps, they keep
together. -/
theorem foldlM_keeps {f : β → α → Except ε β} {l : List α} (I : β → Prop)
    (step : ∀ a ∈ l, ∀ b b', I b → f b a = .ok b' → I b') {b b' : β} (hb : I b)
    (h : l.foldlM f b = .ok b') : I b' := by
  induction l generalizing b with
  | nil =>
      obtain rfl := Except.ok.inj h
      exact hb
  | cons a l ih =>
      rw [List.foldlM_cons] at h
      obtain ⟨b₁, hb₁, hrest⟩ := bind_eq_ok.1 h
      have hkept := step a List.mem_cons_self b b₁ hb hb₁
      exact ih (fun a' ha' => step a' (List.mem_cons_of_mem _ ha')) hkept hrest

/-- What one of several attempts brings about and each of them keeps is so in
the end. -/
theorem foldlM_reaches {f : β → α → Except ε β} {l : List α} (I : β → Prop)
    (step : ∀ a ∈ l, ∀ b b', I b → f b a = .ok b' → I b') {a : α} (ha : a ∈ l)
    (reached : ∀ b b', f b a = .ok b' → I b') {b b' : β} (h : l.foldlM f b = .ok b') : I b' := by
  obtain ⟨before, after, rfl⟩ := List.append_of_mem ha
  rw [List.foldlM_append] at h
  obtain ⟨b₁, -, h⟩ := bind_eq_ok.1 h
  rw [List.foldlM_cons] at h
  obtain ⟨b₂, hb₂, hrest⟩ := bind_eq_ok.1 h
  refine foldlM_keeps I ?_ (reached b₁ b₂ hb₂) hrest
  intro a' ha' b b' hb
  exact step a' (List.mem_append_right _ (List.mem_cons_of_mem _ ha')) b b' hb

/-- Attempts that build on each other fail as the first does that fails. -/
theorem foldlM_eq_error_iff {f : β → α → Except ε β} {l : List α} {b : β} {e : ε} :
    l.foldlM f b = .error e ↔
      ∃ before a after b', l = before ++ a :: after ∧ before.foldlM f b = .ok b' ∧
        f b' a = .error e := by
  induction l generalizing b with
  | nil =>
      constructor
      · intro h; cases h
      · intro ⟨before, a, after, b', h, _⟩
        cases before <;> cases h
  | cons a l ih =>
      rw [List.foldlM_cons]
      constructor
      · intro h
        cases ha : f b a with
        | error e' =>
            rw [ha] at h
            obtain rfl := Except.error.inj h
            exact ⟨[], a, l, b, rfl, rfl, ha⟩
        | ok b₁ =>
            rw [ha] at h
            obtain ⟨before, a', after, b', rfl, hbefore, ha'⟩ := ih.1 h
            refine ⟨a :: before, a', after, b', rfl, ?_, ha'⟩
            rw [List.foldlM_cons, ha]
            exact hbefore
      · intro ⟨before, a', after, b', hsplit, hbefore, ha'⟩
        cases before with
        | nil =>
            obtain ⟨rfl, rfl⟩ := List.cons.inj hsplit
            obtain rfl := Except.ok.inj hbefore
            rw [ha']
            rfl
        | cons a₁ before =>
            obtain ⟨rfl, rfl⟩ := List.cons.inj hsplit
            rw [List.foldlM_cons] at hbefore
            obtain ⟨b₁, hb₁, hbefore⟩ := bind_eq_ok.1 hbefore
            rw [hb₁]
            exact ih.2 ⟨before, a', after, b', rfl, hbefore, ha'⟩

/-- Checks on the items of a list fail as the first does that fails. -/
theorem forM_eq_error_iff {f : α → Except ε Unit} {l : List α} {e : ε} :
    l.forM f = .error e ↔
      ∃ before a after, l = before ++ a :: after ∧ (∀ b ∈ before, f b = .ok ()) ∧
        f a = .error e := by
  have hfold : ∀ l : List α, l.forM f = l.foldlM (fun _ a => f a) () := by
    intro l
    induction l with
    | nil => rfl
    | cons a l ih =>
        show (f a >>= fun _ => l.forM f) = _
        rw [ih, List.foldlM_cons]
  rw [hfold, foldlM_eq_error_iff]
  constructor
  · intro ⟨before, a, after, u, hsplit, hbefore, ha⟩
    rw [← hfold] at hbefore
    exact ⟨before, a, after, hsplit, forM_eq_ok_iff.1 hbefore, ha⟩
  · intro ⟨before, a, after, hsplit, hbefore, ha⟩
    refine ⟨before, a, after, (), hsplit, ?_, ha⟩
    rw [← hfold]
    exact forM_eq_ok_iff.2 hbefore

end Rowsmith.Attempt

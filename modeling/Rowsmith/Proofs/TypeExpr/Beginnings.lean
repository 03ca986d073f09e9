/-
Where blanks are skipped in the text of a type. Up to there the text is a
beginning of a type expression (`Begun`): the reader has read all of it,
some brackets are open, and either a type is to follow or one has been
read. Blanks may stand behind every beginning, so a blank that cannot be
skipped stops the reader wherever it follows one.

That the reader comes as far as that is shown by what it still has to do
(`resume`): behind a beginning this depends only on the number of open
brackets and on what was read last, and it is the same as for the whole
text (`Begun.resume_eq`). The reader carries a number that bounds the
nesting; where it is larger than the length of what is left, it does not
matter how large it is (`read_succ`), so one number serves for all that is
left of a text.

A beginning has no blank of several bytes in it. So there is no other
place in a text where such a blank could follow one than in front of the
first of them (`Begun.unique`).
-/
import Rowsmith.Proofs.TypeExpr.Grammar

namespace Rowsmith.TypeExpr

open Text Attempt

variable {front s rest : List Char} {path : String} {c : Char} {n d : Nat}

-- ========================================================== beginnings

/-- What a beginning of a type expression ends in, but for blanks. -/
inductive Stage
  -- Nothing, an opening bracket or a comma: a type is to follow.
  | awaiting
  -- A path, behind which arguments may follow.
  | path
  -- A closing bracket.
  | closed
deriving DecidableEq, Repr

variable {stage : Stage}

/-- A text is a beginning of a type expression, with a number of brackets
open. All blanks in it are of one byte. -/
inductive Begun : List Char → Nat → Stage → Prop
  | start : Begun [] 0 .awaiting
  | blank {front : List Char} {d : Nat} {stage : Stage} {c : Char} (h : Begun front d stage)
    (hblank : isBlank c = true) (hnarrow : c.utf8Size = 1) : Begun (front ++ [c]) d stage
  | path {front : List Char} {d : Nat} {path : String} (h : Begun front d .awaiting)
    (hpath : IsPath path) : Begun (front ++ path.toList) d .path
  | opened {front : List Char} {d : Nat} (h : Begun front d .path) :
    Begun (front ++ ['<']) (d + 1) .awaiting
  | next {front : List Char} {d : Nat} {stage : Stage} (h : Begun front (d + 1) stage)
    (hstage : stage ≠ .awaiting) : Begun (front ++ [',']) (d + 1) .awaiting
  | closed {front : List Char} {d : Nat} {stage : Stage} (h : Begun front (d + 1) stage)
    (hstage : stage ≠ .awaiting) : Begun (front ++ ['>']) d .closed

/-- A blank of several bytes. -/
def IsWideBlank (c : Char) : Prop := isBlank c = true ∧ 1 < c.utf8Size

theorem utf8Size_eq_one_iff : c.utf8Size = 1 ↔ c.toNat < 0x80 := by
  rw [Char.utf8Size_eq_one_iff, UInt32.le_iff_toNat_le]
  exact Nat.lt_succ_iff.symm

/-- All blanks of a beginning are of one byte. -/
theorem Begun.narrow (h : Begun front d stage) : Narrow front := by
  have hvisible : ∀ {c : Char}, isBlank c = false → Narrow [c] := fun hc c' hc' hblank => by
    obtain rfl := List.mem_singleton.1 hc'
    exact absurd hblank (Bool.eq_false_iff.1 hc)
  have happend : ∀ {s s' : List Char}, Narrow s → Narrow s' → Narrow (s ++ s') :=
    fun hs hs' => List.forall_mem_append.2 ⟨hs, hs'⟩
  induction h with
  | start => exact fun _ hc => absurd hc List.not_mem_nil
  | blank _ _ hnarrow ih =>
      refine happend ih fun c' hc' _ => ?_
      obtain rfl := List.mem_singleton.1 hc'
      exact hnarrow
  | path _ hpath ih =>
      refine happend ih fun c' hc' hblank => ?_
      have hpathChar := (isPath_iff.1 hpath).2 c' hc'
      exact absurd hblank (Bool.eq_false_iff.1 (isBlank_of_isPathChar hpathChar))
  | opened _ ih => exact happend ih (hvisible (by decide))
  | next _ _ ih => exact happend ih (hvisible (by decide))
  | closed _ _ ih => exact happend ih (hvisible (by decide))

/-- A beginning with a blank of several bytes behind it is the text up to
the first such blank. -/
theorem Begun.unique {front' rest' : List Char} {c' : Char} {d' : Nat} {stage' : Stage}
    (h : Begun front d stage) (hc : IsWideBlank c) (h' : Begun front' d' stage')
    (hc' : IsWideBlank c') (htext : front ++ c :: rest = front' ++ c' :: rest') :
    front = front' := by
  have hfirst : ∀ {front rest : List Char} {c : Char} {d : Nat} {stage : Stage},
      Begun front d stage → IsWideBlank c →
        (front ++ c :: rest).takeWhile (fun c => !isBlank c || c.utf8Size == 1) = front := by
    intro front rest c d stage h ⟨hblank, hwide⟩
    rw [List.takeWhile_append_of_pos, List.takeWhile_cons_of_neg, List.append_nil]
    · simp only [hblank, Bool.not_true, Bool.false_or, beq_iff_eq]
      omega
    · intro c hc
      cases hb : isBlank c with
      | false => rfl
      | true => simpa using h.narrow c hc hb
  rw [← hfirst h hc, htext, hfirst h' hc']

-- ============================================================== nesting

/-- A type takes at least the characters of its path. -/
theorem TypeAt.length_lt {t : TypeExpr} (h : TypeAt s t rest) : rest.length < s.length := by
  cases h with
  | plain hbefore hpath hafter =>
      have hle := hafter.suffix.length_le
      have hlt := hpath.length_lt
      have hle' := hbefore.suffix.length_le
      omega
  | applied hbefore hpath hafter hargs =>
      have hle := (hargs.suffix.trans ((List.suffix_cons _ _).trans hafter.suffix)).length_le
      have hlt := hpath.length_lt
      have hle' := hbefore.suffix.length_le
      omega

theorem length_dropWhile_lt (h : isPathText (s.takeWhile isPathChar) = true) :
    (s.dropWhile isPathChar).length < s.length := by
  have hne : s.takeWhile isPathChar ≠ [] := by
    rintro hnil
    rw [hnil] at h
    cases h
  have hlength := congrArg List.length (s.takeWhile_append_dropWhile (p := isPathChar))
  rw [List.length_append] at hlength
  have hpos := List.length_pos_iff.2 hne
  omega

/-- A number that covers the length of a text covers its nesting, and then
it does not matter how large it is. -/
theorem read_succ (n : Nat) :
    (∀ s : List Char, s.length < n → readType (n + 1) s = readType n s) ∧
    ∀ s : List Char, s.length + 1 < n → readArgs (n + 1) s = readArgs n s := by
  induction n with
  | zero => exact ⟨fun s h => absurd h (Nat.not_lt_zero _), fun s h => absurd h (Nat.not_lt_zero _)⟩
  | succ n ih =>
      obtain ⟨htype, hargs⟩ := ih
      constructor
      · intro s hn
        rw [readType, readType]
        refine bind_congr_ok fun s₁ hbefore => ?_
        have hle₁ := (blanksAt_of_skipBlanks hbefore).suffix.length_le
        dsimp only
        split
        case isFalse => rfl
        case isTrue htext =>
          refine bind_congr_ok fun s₂ hafter => ?_
          have hle₂ := (blanksAt_of_skipBlanks hafter).suffix.length_le
          have hlt : (s₁.dropWhile isPathChar).length < s₁.length := length_dropWhile_lt htext
          split
          case h_1 s₃ =>
            rw [List.length_cons] at hle₂
            rw [hargs s₃ (by omega)]
          case h_2 => rfl
      · intro s hn
        rw [readArgs, readArgs, htype s (by omega)]
        refine bind_congr_ok fun r hread => ?_
        obtain ⟨arg, s₁⟩ := r
        have hlt := ((derives_of_reads n).1 _ _ _ hread).length_lt
        refine bind_congr_ok fun s₂ hafter => ?_
        have hle := (blanksAt_of_skipBlanks hafter).suffix.length_le
        split
        case h_1 s₃ =>
          rw [List.length_cons] at hle
          rw [hargs s₃ (by omega)]
        case h_2 => rfl
        case h_3 => rfl

-- ========================================================= reading on

/-- Reads on behind a path and blanks: behind arguments, if they follow. -/
def behindPath (n : Nat) (go : List Char → Except Refusal Unit) : List Char → Except Refusal Unit
  | '<' :: s => do
    let (_, s) ← readArgs n s
    go s
  | s => go s

/-- Reads on behind an argument and blanks: behind all arguments. -/
def behindArgument (n : Nat) (go : List Char → Except Refusal Unit) :
    List Char → Except Refusal Unit
  | ',' :: s => do
    let (_, s) ← readArgs n s
    go s
  | '>' :: s => go s
  | _ => .error .malformed

/-- Reads on behind a type, to the end of the text. So many brackets are
open; what is read is not kept. -/
def finish (n : Nat) : Nat → List Char → Except Refusal Unit
  | 0, s => do
    let s ← skipBlanks s
    if s.isEmpty then return else throw .malformed
  | d + 1, s => do
    let s ← skipBlanks s
    behindArgument n (finish n d) s

/-- Reads on behind a beginning, to the end of the text. -/
def resume (n d : Nat) : Stage → List Char → Except Refusal Unit
  | .awaiting, s => do
    let (_, s) ← readType n s
    finish n d s
  | .path, s => do
    let s ← skipBlanks s
    behindPath n (finish n d) s
  | .closed, s => finish n d s

theorem isPathChar_of_isBlank (h : isBlank c = true) : isPathChar c = false :=
  Bool.eq_false_iff.2 fun hpath => Bool.eq_false_iff.1 (isBlank_of_isPathChar hpath) h

theorem head_not_isPathChar (h : isPathChar c = false) :
    ∀ c' ∈ (c :: s).head?, isPathChar c' = false := by
  intro c' hc'
  obtain rfl := Option.some.inj hc'
  exact h

theorem skipBlanks_narrow (hblank : isBlank c = true) (hnarrow : c.utf8Size = 1) :
    skipBlanks (c :: s) = skipBlanks s := by
  rw [skipBlanks, if_pos hblank, if_pos (utf8Size_eq_one_iff.1 hnarrow)]

theorem IsWideBlank.skipBlanks (h : IsWideBlank c) :
    TypeExpr.skipBlanks (c :: s) = .error .splitBlank := by
  obtain ⟨hblank, hwide⟩ := h
  have hnarrow : ¬ c.toNat < 0x80 := by
    rw [← utf8Size_eq_one_iff]
    omega
  rw [TypeExpr.skipBlanks, if_pos hblank, if_neg hnarrow]

/-- A blank that can be skipped does not matter where it stands. -/
theorem resume_narrow (hblank : isBlank c = true) (hnarrow : c.utf8Size = 1) :
    resume n d stage (c :: s) = resume n d stage s := by
  have hskip := skipBlanks_narrow (s := s) hblank hnarrow
  have hfinish : finish n d (c :: s) = finish n d s := by
    cases d with
    | zero => rw [finish, finish, hskip]
    | succ d => rw [finish, finish, hskip]
  cases stage with
  | awaiting =>
      cases n with
      | zero => rfl
      | succ n => rw [resume, resume, readType, readType, hskip]
  | path => rw [resume, resume, hskip]
  | closed => exact hfinish

/-- A blank that cannot be skipped stops the reader. -/
theorem resume_wide (h : IsWideBlank c) :
    resume (n + 1) d stage (c :: s) = .error .splitBlank := by
  have hfinish : finish (n + 1) d (c :: s) = .error .splitBlank := by
    cases d with
    | zero =>
        rw [finish, h.skipBlanks]
        rfl
    | succ d =>
        rw [finish, h.skipBlanks]
        rfl
  cases stage with
  | awaiting =>
      rw [resume, readType, h.skipBlanks]
      rfl
  | path =>
      rw [resume, h.skipBlanks]
      rfl
  | closed => exact hfinish

/-- Arguments are read as a first one, with a bracket to close behind it. -/
theorem readArgs_finish (hn : s.length + 1 < n) : (do
    let (_, s) ← readArgs n s
    finish n d s) = resume n (d + 1) .awaiting s := by
  obtain ⟨n, rfl⟩ := Nat.exists_eq_succ_of_ne_zero (Nat.ne_zero_of_lt hn)
  rw [resume, readArgs, (read_succ n).1 s (by omega), bind_assoc]
  refine bind_congr_ok fun r hread => ?_
  obtain ⟨arg, s₁⟩ := r
  have hlt := ((derives_of_reads n).1 _ _ _ hread).length_lt
  show _ = finish (n + 1) (d + 1) s₁
  conv_rhs => rw [finish]
  rw [bind_assoc]
  refine bind_congr_ok fun s₂ hafter => ?_
  have hle := (blanksAt_of_skipBlanks hafter).suffix.length_le
  split
  case h_1 s₃ =>
    rw [List.length_cons] at hle
    rw [← (read_succ n).2 s₃ (by omega), bind_assoc]
    rfl
  case h_2 => rfl
  case h_3 hcomma hclose => exact (behindArgument.eq_3 _ _ _ hcomma hclose).symm

/-- Behind a type that may end, a mark between or behind arguments is left
for what follows the type. -/
theorem resume_mark (hstage : stage ≠ .awaiting) (hblank : isBlank c = false) (hc : c ≠ '<') :
    resume n d stage (c :: s) = finish n d (c :: s) := by
  cases stage with
  | awaiting => exact absurd rfl hstage
  | path =>
      rw [resume, skipBlanks_cons hblank]
      exact behindPath.eq_2 _ _ _ fun _ heq => hc (List.cons.inj heq).1
  | closed => rfl

/-- What is left to do behind a beginning is the same as for the whole
text. -/
theorem Begun.resume_eq (h : Begun front d stage)
    (hmaximal : stage = .path → ∀ c ∈ s.head?, isPathChar c = false)
    (hn : (front ++ s).length + 1 < n) :
    resume n 0 .awaiting (front ++ s) = resume n d stage s := by
  induction h generalizing s with
  | start => rfl
  | @blank front d stage c _ hblank hnarrow ih =>
      rw [List.append_assoc] at hn ⊢
      have hpathChar := head_not_isPathChar (s := s) (isPathChar_of_isBlank hblank)
      exact (ih (fun _ => hpathChar) hn).trans (resume_narrow hblank hnarrow)
  | @path front d path _ hpath ih =>
      rw [List.append_assoc] at hn ⊢
      rw [ih (fun h => nomatch h) hn]
      rw [List.length_append] at hn
      obtain ⟨n, rfl⟩ := Nat.exists_eq_succ_of_ne_zero (Nat.ne_zero_of_lt hn)
      rw [resume, resume, readType_path hpath (hmaximal rfl), bind_assoc]
      refine bind_congr_ok fun s₁ hafter => ?_
      have hle := (blanksAt_of_skipBlanks hafter).suffix.length_le
      rw [List.length_append] at hn
      split
      case h_1 s₂ =>
        rw [List.length_cons] at hle
        rw [← (read_succ n).2 s₂ (by omega), bind_assoc]
        rfl
      case h_2 hno => exact (behindPath.eq_2 _ _ _ hno).symm
  | @opened front d _ ih =>
      rw [List.append_assoc, List.singleton_append] at hn ⊢
      have hopened : resume n d .path ('<' :: s) = (do
          let (_, s) ← readArgs n s
          finish n d s) := by
        rw [resume, skipBlanks_cons (by decide)]
        rfl
      rw [ih (fun _ => head_not_isPathChar (by decide)) hn, hopened]
      rw [List.length_append, List.length_cons] at hn
      exact readArgs_finish (by omega)
  | @next front d stage _ hstage ih =>
      rw [List.append_assoc, List.singleton_append] at hn ⊢
      have hnext : resume n (d + 1) stage (',' :: s) = (do
          let (_, s) ← readArgs n s
          finish n d s) := by
        rw [resume_mark hstage (by decide) (by decide), finish, skipBlanks_cons (by decide)]
        rfl
      rw [ih (fun _ => head_not_isPathChar (by decide)) hn, hnext]
      rw [List.length_append, List.length_cons] at hn
      exact readArgs_finish (by omega)
  | @closed front d stage _ hstage ih =>
      rw [List.append_assoc, List.singleton_append] at hn ⊢
      have hclosed : resume n (d + 1) stage ('>' :: s) = finish n d s := by
        rw [resume_mark hstage (by decide) (by decide), finish, skipBlanks_cons (by decide)]
        rfl
      exact (ih (fun _ => head_not_isPathChar (by decide)) hn).trans hclosed

/-- A blank of several bytes behind a beginning keeps the whole text from
being read. -/
theorem Begun.read_error {text : String} (h : Begun front d stage) (hc : IsWideBlank c)
    (htext : text.toList = front ++ c :: rest) : read text = .error .splitBlank := by
  have hpathChar := head_not_isPathChar (s := rest) (isPathChar_of_isBlank hc.1)
  have hresume : resume (2 * text.toList.length + 2) 0 .awaiting text.toList = .error .splitBlank := by
    rw [htext, h.resume_eq (fun _ => hpathChar) (by omega)]
    exact resume_wide hc
  unfold read
  obtain hfails | ⟨⟨t, s⟩, hread, hfails⟩ := bind_eq_error.1 hresume
  · exact bind_eq_error.2 (.inl hfails)
  · refine bind_eq_error.2 (.inr ⟨(t, s), hread, ?_⟩)
    obtain hfails | ⟨s', hskip, hfails⟩ := bind_eq_error.1 hfails
    · exact bind_eq_error.2 (.inl hfails)
    · split at hfails <;> cases hfails

end Rowsmith.TypeExpr

/-
What is read as a type is what the grammar derives.

The grammar relates a text to a type at its front and to what is left
behind it. It leaves two things open that the reader decides: how many of
the blanks behind a path belong to the type, and whether a path stands
alone where a bracket follows. So the reader finds a derivation of whatever
it accepts, with all blanks taken (`derives_of_reads`); and where a
derivation is given, the reader agrees with it if no opening bracket
follows the type (`Stops`), and up to the blanks it has already skipped
(`reads_of_derives`). Within arguments a comma or a closing bracket
follows, and behind the whole nothing does.

That there is a derivation is all that has to be shown of a text that is
accepted, so the number that bounds the nesting only has to cover the
length of the text.

Main result: `read_iff_derives`.
-/
import Rowsmith.Proofs.TypeExpr.Printing

namespace Rowsmith.TypeExpr

open Text Attempt

variable {path : String} {t arg : TypeExpr} {args : List TypeExpr}
  {s s₁ s₂ s₃ rest : List Char} {n : Nat}

-- =============================================================== grammar

/-- White space at the front of a text, if any, and what is behind it. -/
def BlanksAt (s rest : List Char) : Prop :=
  ∃ blanks, (∀ c ∈ blanks, isBlank c = true) ∧ s = blanks ++ rest

/-- A path at the front of a text, as long as it can be, and what is behind
it. -/
structure PathAt (s : List Char) (path : String) (rest : List Char) : Prop where
  isPath : IsPath path
  split : s = path.toList ++ rest
  maximal : ∀ c ∈ rest.head?, isPathChar c = false

mutual

/-- A type at the front of a text, and what is behind it: a path between
blanks, and perhaps arguments. -/
inductive TypeAt : List Char → TypeExpr → List Char → Prop
  | plain {s s₁ s₂ rest : List Char} {path : String} (hbefore : BlanksAt s s₁)
    (hpath : PathAt s₁ path s₂) (hafter : BlanksAt s₂ rest) : TypeAt s (named path) rest
  | applied {s s₁ s₂ s₃ rest : List Char} {path : String} {args : List TypeExpr}
    (hbefore : BlanksAt s s₁) (hpath : PathAt s₁ path s₂) (hafter : BlanksAt s₂ ('<' :: s₃))
    (hargs : ArgsAt s₃ args rest) : TypeAt s (generic path args) rest

/-- One or more arguments behind an opening bracket, with commas between
them, and what is behind the closing bracket. -/
inductive ArgsAt : List Char → List TypeExpr → List Char → Prop
  | last {s s₁ rest : List Char} {arg : TypeExpr} (harg : TypeAt s arg s₁)
    (hafter : BlanksAt s₁ ('>' :: rest)) : ArgsAt s [arg] rest
  | more {s s₁ s₂ rest : List Char} {arg : TypeExpr} {args : List TypeExpr}
    (harg : TypeAt s arg s₁) (hafter : BlanksAt s₁ (',' :: s₂)) (hargs : ArgsAt s₂ args rest) :
    ArgsAt s (arg :: args) rest

end

/-- A text that is a type and blanks, with the tree of its derivation. -/
def Derives (text : String) (t : TypeExpr) : Prop :=
  ∃ rest, TypeAt text.toList t rest ∧ BlanksAt rest []

/-- All blanks of a text are of one byte. -/
def Narrow (s : List Char) : Prop := ∀ c ∈ s, isBlank c = true → c.utf8Size = 1

-- ============================================================== suffixes

theorem BlanksAt.suffix (h : BlanksAt s rest) : rest <:+ s := by
  obtain ⟨blanks, -, rfl⟩ := h
  exact List.suffix_append blanks rest

theorem PathAt.suffix (h : PathAt s path rest) : rest <:+ s :=
  h.split ▸ List.suffix_append path.toList rest

theorem PathAt.length_lt (h : PathAt s path rest) : rest.length < s.length := by
  have hpath : 0 < path.toList.length :=
    List.length_pos_iff.2 (mt String.toList_eq_nil_iff.1 h.isPath.nonempty)
  rw [h.split, List.length_append]
  omega

mutual

theorem TypeAt.suffix {s : List Char} {t : TypeExpr} {rest : List Char} :
    TypeAt s t rest → rest <:+ s
  | .plain hbefore hpath hafter => hafter.suffix.trans (hpath.suffix.trans hbefore.suffix)
  | .applied hbefore hpath hafter hargs =>
      (hargs.suffix.trans (List.suffix_cons _ _)).trans
        (hafter.suffix.trans (hpath.suffix.trans hbefore.suffix))

theorem ArgsAt.suffix {s : List Char} {args : List TypeExpr} {rest : List Char} :
    ArgsAt s args rest → rest <:+ s
  | .last harg hafter => (List.suffix_cons _ _).trans (hafter.suffix.trans harg.suffix)
  | .more harg hafter hargs =>
      (hargs.suffix.trans (List.suffix_cons _ _)).trans (hafter.suffix.trans harg.suffix)

end

theorem Narrow.suffix (h : Narrow s) (hrest : rest <:+ s) : Narrow rest :=
  fun c hc => h c (hrest.subset hc)

theorem narrow_of_ascii (h : s.all (·.toNat ≤ 127) = true) : Narrow s := by
  intro c hc _
  have hle : c.toNat ≤ 127 := of_decide_eq_true (List.all_eq_true.1 h c hc)
  exact Char.utf8Size_eq_one_iff.2 hle

-- ================================================================ blanks

/-- Only blanks of several bytes keep blanks from being skipped. -/
theorem Narrow.skipBlanks (h : Narrow s) :
    TypeExpr.skipBlanks s = .ok (s.dropWhile isBlank) := by
  induction s with
  | nil => rfl
  | cons c s ih =>
      obtain ⟨hc, hs⟩ := List.forall_mem_cons.1 h
      by_cases hblank : isBlank c = true
      · have hbyte : c.toNat < 0x80 := by
          have hval := UInt32.le_iff_toNat_le.1 (Char.utf8Size_eq_one_iff.1 (hc hblank))
          exact Nat.lt_succ_of_le hval
        rw [TypeExpr.skipBlanks, if_pos hblank, if_pos hbyte, List.dropWhile_cons_of_pos hblank]
        exact ih hs
      · rw [TypeExpr.skipBlanks, if_neg hblank, List.dropWhile_cons_of_neg hblank]

theorem Narrow.error_of_skipBlanks {e : Refusal} (hs : Narrow s)
    (h : TypeExpr.skipBlanks s = .error e) : e = .malformed := by
  rw [hs.skipBlanks] at h
  cases h

theorem blanksAt_of_skipBlanks (h : skipBlanks s = .ok rest) : BlanksAt s rest := by
  induction s with
  | nil =>
      obtain rfl := Except.ok.inj h
      exact ⟨[], fun _ hc => absurd hc List.not_mem_nil, rfl⟩
  | cons c s ih =>
      rw [skipBlanks] at h
      split at h
      case isTrue hblank =>
        split at h
        case isTrue =>
          obtain ⟨blanks, hblanks, rfl⟩ := ih h
          exact ⟨c :: blanks, List.forall_mem_cons.2 ⟨hblank, hblanks⟩, rfl⟩
        case isFalse => cases h
      case isFalse =>
        obtain rfl := Except.ok.inj h
        exact ⟨[], fun _ hc => absurd hc List.not_mem_nil, rfl⟩

/-- However many blanks were taken, skipping goes on to the same place. -/
theorem BlanksAt.dropWhile (h : BlanksAt s rest) :
    s.dropWhile isBlank = rest.dropWhile isBlank := by
  obtain ⟨blanks, hblanks, rfl⟩ := h
  exact List.dropWhile_append_of_pos hblanks

theorem dropWhile_cons {c : Char} (h : isBlank c = false) (rest : List Char) :
    (c :: rest).dropWhile isBlank = c :: rest :=
  List.dropWhile_cons_of_neg (Bool.eq_false_iff.1 h)

/-- Blanks in front of a visible character are skipped up to it. -/
theorem BlanksAt.skip {c : Char} (h : BlanksAt s (c :: rest)) (hc : isBlank c = false) (hs : Narrow s) :
    skipBlanks s = .ok (c :: rest) := by
  rw [hs.skipBlanks, h.dropWhile, dropWhile_cons hc]

/-- Where blanks were skipped, skipping again does nothing. -/
theorem skipBlanks_dropWhile (s : List Char) :
    skipBlanks (s.dropWhile isBlank) = .ok (s.dropWhile isBlank) := by
  cases hs : s.dropWhile isBlank with
  | nil => rfl
  | cons c rest =>
      have hc := List.head?_dropWhile_not isBlank s
      rw [hs] at hc
      exact skipBlanks_cons (by simpa using hc) rest

-- ============================================================= soundness

/-- Whatever is read has a derivation. -/
theorem derives_of_reads (n : Nat) :
    (∀ s t rest, readType n s = .ok (t, rest) → TypeAt s t rest) ∧
    ∀ s args rest, readArgs n s = .ok (args, rest) → ArgsAt s args rest := by
  induction n with
  | zero =>
      constructor
      · exact fun _ _ _ h => nomatch h
      · exact fun _ _ _ h => nomatch h
  | succ n ih =>
      obtain ⟨htype, hargs⟩ := ih
      constructor
      · intro s t rest h
        rw [readType] at h
        obtain ⟨s₁, hbefore, h⟩ := bind_eq_ok.1 h
        dsimp only at h
        split at h
        case isFalse => cases h
        case isTrue htext =>
          have hpath : PathAt s₁ (String.ofList (s₁.takeWhile isPathChar))
              (s₁.dropWhile isPathChar) := by
            refine ⟨isPath_takeWhile htext, ?_, ?_⟩
            · rw [String.toList_ofList, List.takeWhile_append_dropWhile]
            · intro c hc
              have hnot := List.head?_dropWhile_not isPathChar s₁
              rw [Option.mem_def.1 hc] at hnot
              simpa using hnot
          obtain ⟨s₂, hafter, h⟩ := bind_eq_ok.1 h
          split at h
          · obtain ⟨⟨args, s₃⟩, hread, h⟩ := bind_eq_ok.1 h
            cases h
            exact .applied (blanksAt_of_skipBlanks hbefore) hpath (blanksAt_of_skipBlanks hafter)
              (hargs _ _ _ hread)
          · cases h
            exact .plain (blanksAt_of_skipBlanks hbefore) hpath (blanksAt_of_skipBlanks hafter)
      · intro s args rest h
        rw [readArgs] at h
        obtain ⟨⟨arg, s₁⟩, harg, h⟩ := bind_eq_ok.1 h
        obtain ⟨s₂, hafter, h⟩ := bind_eq_ok.1 h
        have harg := htype _ _ _ harg
        have hafter := blanksAt_of_skipBlanks hafter
        split at h
        · obtain ⟨⟨args, s₃⟩, hread, h⟩ := bind_eq_ok.1 h
          cases h
          exact .more harg hafter (hargs _ _ _ hread)
        · cases h
          exact .last harg hafter
        · cases h

-- ========================================================== completeness

/-- No arguments follow, with or without blanks before them. -/
def Stops (rest : List Char) : Prop := ∀ c ∈ (rest.dropWhile isBlank).head?, c ≠ '<'

theorem BlanksAt.stops {c : Char} (h : BlanksAt s (c :: rest)) (hblank : isBlank c = false)
    (hc : c ≠ '<') : Stops s := by
  intro d hd
  rw [h.dropWhile, dropWhile_cons hblank] at hd
  obtain rfl := Option.some.inj hd
  exact hc

/-- The reader begins with the path that a derivation begins with. -/
theorem readType_pathAt (hbefore : BlanksAt s s₁) (hpath : PathAt s₁ path s₂) (hs : Narrow s) :
    readType (n + 1) s = (do
      match ← skipBlanks s₂ with
      | '<' :: s =>
        let (args, s) ← readArgs n s
        return (generic path args, s)
      | s => return (named path, s)) := by
  have hskip : skipBlanks s = .ok s₁ ∧ skipBlanks s₁ = .ok s₁ := by
    obtain ⟨c, chars, hcons⟩ := List.exists_cons_of_ne_nil
      (mt String.toList_eq_nil_iff.1 hpath.isPath.nonempty)
    have hchars := (isPath_iff.1 hpath.isPath).2
    have hc : isBlank c = false :=
      isBlank_of_isPathChar (hchars c (hcons ▸ List.mem_cons_self))
    have hsplit : s₁ = c :: (chars ++ s₂) := by rw [hpath.split, hcons, List.cons_append]
    rw [hsplit] at hbefore ⊢
    exact ⟨hbefore.skip hc hs, skipBlanks_cons hc _⟩
  have hsame : readType (n + 1) s = readType (n + 1) s₁ := by
    rw [readType, readType, hskip.1, hskip.2]
  rw [hsame, hpath.split]
  exact readType_path hpath.isPath hpath.maximal

/-- What has a derivation is read, if no arguments follow. -/
theorem reads_of_derives (n : Nat) :
    (∀ s t rest, TypeAt s t rest → Narrow s → s.length ≤ n → Stops rest →
      ∃ rest', readType n s = .ok (t, rest') ∧
        skipBlanks rest' = .ok (rest.dropWhile isBlank)) ∧
    ∀ s args rest, ArgsAt s args rest → Narrow s → s.length < n →
      readArgs n s = .ok (args, rest) := by
  induction n with
  | zero =>
      constructor
      · intro s t rest h hs hn
        have hshort : ∀ {s₁ s₂ : List Char} {path : String}, BlanksAt s s₁ →
            ¬ PathAt s₁ path s₂ := by
          intro s₁ s₂ path hbefore hpath
          have hle := hbefore.suffix.length_le
          have hlt := hpath.length_lt
          omega
        cases h with
        | plain hbefore hpath => exact absurd hpath (hshort hbefore)
        | applied hbefore hpath => exact absurd hpath (hshort hbefore)
      · exact fun s args rest _ _ hn => absurd hn (Nat.not_lt_zero _)
  | succ n ih =>
      obtain ⟨htype, hargs⟩ := ih
      constructor
      · intro s t rest h hs hn hstops
        cases h with
        | @plain _ s₁ s₂ _ path hbefore hpath hafter =>
            have hs₂ := hs.suffix (hpath.suffix.trans hbefore.suffix)
            refine ⟨rest.dropWhile isBlank, ?_, skipBlanks_dropWhile rest⟩
            rw [readType_pathAt hbefore hpath hs, hs₂.skipBlanks, hafter.dropWhile]
            show (match rest.dropWhile isBlank with
              | '<' :: s => _
              | s => _) = _
            split
            case h_1 s hbracket => exact absurd rfl (hstops '<' (by rw [hbracket]; rfl))
            case h_2 => rfl
        | @applied _ s₁ s₂ s₃ _ path args hbefore hpath hafter hmore =>
            have hs₂ := hs.suffix (hpath.suffix.trans hbefore.suffix)
            have hs₃ := (hs₂.suffix hafter.suffix).suffix (List.suffix_cons '<' s₃)
            have hlength : s₃.length < n := by
              have h₁ := hbefore.suffix.length_le
              have h₂ := hpath.length_lt
              have h₃ := hafter.suffix.length_le
              rw [List.length_cons] at h₃
              omega
            refine ⟨rest, ?_, ?_⟩
            · rw [readType_pathAt hbefore hpath hs, hafter.skip (by decide) hs₂]
              show (readArgs n s₃ >>= fun x => pure (generic path x.1, x.2)) = _
              rw [hargs _ _ _ hmore hs₃ hlength]
              rfl
            · exact (hs₃.suffix hmore.suffix).skipBlanks
      · intro s args rest h hs hn
        have hnarrow : ∀ {arg : TypeExpr} {s₁ : List Char}, TypeAt s arg s₁ → Narrow s₁ :=
          fun harg => hs.suffix harg.suffix
        cases h with
        | last harg hafter =>
            obtain ⟨rest', hread, hskip⟩ := htype _ _ _ harg hs (Nat.le_of_lt_succ hn)
              (hafter.stops (by decide) (by decide))
            rw [hafter.dropWhile, dropWhile_cons (by decide)] at hskip
            rw [readArgs, hread]
            show (skipBlanks rest' >>= _) = _
            rw [hskip]
            rfl
        | @more _ s₁ s₂ _ arg args harg hafter hmore =>
            obtain ⟨rest', hread, hskip⟩ := htype _ _ _ harg hs (Nat.le_of_lt_succ hn)
              (hafter.stops (by decide) (by decide))
            rw [hafter.dropWhile, dropWhile_cons (by decide)] at hskip
            have hs₂ := ((hnarrow harg).suffix hafter.suffix).suffix (List.suffix_cons ',' s₂)
            have hlength : s₂.length < n := by
              have h₁ := harg.suffix.length_le
              have h₂ := hafter.suffix.length_le
              rw [List.length_cons] at h₂
              omega
            rw [readArgs, hread]
            show (skipBlanks rest' >>= _) = _
            rw [hskip]
            show (readArgs n s₂ >>= fun x => pure (arg :: x.1, x.2)) = _
            rw [hargs _ _ _ hmore hs₂ hlength]
            rfl

-- ============================================================== refusals

/-- Where all blanks are narrow, a text that is not read is malformed. -/
theorem malformed_of_narrow (n : Nat) :
    (∀ s e, Narrow s → readType n s = .error e → e = .malformed) ∧
    ∀ s e, Narrow s → readArgs n s = .error e → e = .malformed := by
  induction n with
  | zero =>
      constructor
      · exact fun _ _ _ h => (Except.error.inj h).symm
      · exact fun _ _ _ h => (Except.error.inj h).symm
  | succ n ih =>
      obtain ⟨htype, hargs⟩ := ih
      constructor
      · intro s e hs h
        rw [readType] at h
        obtain h | ⟨s₁, hbefore, h⟩ := bind_eq_error.1 h
        · exact hs.error_of_skipBlanks h
        dsimp only at h
        split at h
        case isFalse => exact (Except.error.inj h).symm
        case isTrue =>
          have hs₂ : Narrow (s₁.dropWhile isPathChar) :=
            hs.suffix ((List.dropWhile_suffix _).trans (blanksAt_of_skipBlanks hbefore).suffix)
          obtain h | ⟨s₂, hafter, h⟩ := bind_eq_error.1 h
          · exact hs₂.error_of_skipBlanks h
          have hs₃ := hs₂.suffix (blanksAt_of_skipBlanks hafter).suffix
          split at h
          case h_1 s₃ =>
            obtain h | ⟨r, -, h⟩ := bind_eq_error.1 h
            · exact hargs _ _ (hs₃.suffix (List.suffix_cons '<' s₃)) h
            · cases h
          case h_2 => cases h
      · intro s e hs h
        rw [readArgs] at h
        obtain h | ⟨⟨arg, s₁⟩, harg, h⟩ := bind_eq_error.1 h
        · exact htype _ _ hs h
        have hs₁ := hs.suffix ((derives_of_reads n).1 _ _ _ harg).suffix
        obtain h | ⟨s₂, hafter, h⟩ := bind_eq_error.1 h
        · exact hs₁.error_of_skipBlanks h
        have hs₂ := hs₁.suffix (blanksAt_of_skipBlanks hafter).suffix
        split at h
        case h_1 s₃ =>
          obtain h | ⟨r, -, h⟩ := bind_eq_error.1 h
          · exact hargs _ _ (hs₂.suffix (List.suffix_cons ',' s₃)) h
          · cases h
        case h_2 => cases h
        case h_3 => exact (Except.error.inj h).symm

-- ========================================================== whole texts

theorem derives_of_read {text : String} (h : read text = .ok t) : Derives text t := by
  unfold read at h
  obtain ⟨⟨t', rest⟩, hread, h⟩ := bind_eq_ok.1 h
  obtain ⟨rest', hskip, h⟩ := bind_eq_ok.1 h
  split at h
  case isFalse => cases h
  case isTrue hempty =>
    cases h
    rw [List.isEmpty_iff.1 hempty] at hskip
    exact ⟨rest, (derives_of_reads _).1 _ _ _ hread, blanksAt_of_skipBlanks hskip⟩

theorem read_of_derives {text : String} (h : Derives text t) (hnarrow : Narrow text.toList) :
    read text = .ok t := by
  obtain ⟨rest, htype, hrest⟩ := h
  have hempty : rest.dropWhile isBlank = [] := hrest.dropWhile
  have hstops : Stops rest := by
    intro c hc
    rw [hempty] at hc
    cases hc
  obtain ⟨rest', hread, hskip⟩ := (reads_of_derives (2 * text.toList.length + 2)).1 _ _ _ htype
    hnarrow (by omega) hstops
  rw [hempty] at hskip
  unfold read
  dsimp only
  rw [hread]
  show (skipBlanks rest' >>= _) = _
  rw [hskip]
  rfl

theorem malformed_of_read {text : String} (hnarrow : Narrow text.toList) {e : Refusal}
    (h : read text = .error e) : e = .malformed := by
  unfold read at h
  obtain h | ⟨⟨t, rest⟩, hread, h⟩ := bind_eq_error.1 h
  · exact (malformed_of_narrow _).1 _ _ hnarrow h
  have hrest := hnarrow.suffix ((derives_of_reads _).1 _ _ _ hread).suffix
  obtain h | ⟨rest', -, h⟩ := bind_eq_error.1 h
  · exact hrest.error_of_skipBlanks h
  · split at h
    · cases h
    · exact (Except.error.inj h).symm

/-- A text without blanks of several bytes is read as a type exactly if the
whole of it is derived from the grammar, and the type is then the tree of
the derivation. Any other text is refused as malformed, with a message that
names the whole text. -/
theorem read_iff_derives (text : String) (hnarrow : Narrow text.toList) :
    (∀ t, read text = .ok t ↔ Derives text t) ∧
    ((∀ t, ¬ Derives text t) → read text = .error .malformed ∧
      malformedMessage text = "cannot parse type `" ++ text ++ "`") := by
  refine ⟨fun t => ⟨derives_of_read, fun h => read_of_derives h hnarrow⟩, fun hnone => ?_⟩
  refine ⟨?_, rfl⟩
  cases hread : read text with
  | ok t => exact absurd (derives_of_read hread) (hnone t)
  | error e => rw [malformed_of_read hnarrow hread]

/-- A text with blanks wherever they may stand has a derivation; one that
ends in a comma has none. -/
theorem read_iff_derives_nested :
    Narrow " a::Map < K ,Option<Vec<b::V >\n>>\t".toList ∧
      Derives " a::Map < K ,Option<Vec<b::V >\n>>\t" nestedType ∧
      Narrow "Vec<i32,>".toList ∧ (∀ t, ¬ Derives "Vec<i32,>" t) := by
  have hnested : Narrow " a::Map < K ,Option<Vec<b::V >\n>>\t".toList :=
    narrow_of_ascii (by decide +kernel)
  have htrailing : Narrow "Vec<i32,>".toList := narrow_of_ascii (by decide +kernel)
  have hread : read " a::Map < K ,Option<Vec<b::V >\n>>\t" = .ok nestedType :=
    toOption_eq_some.1 (by decide +kernel)
  refine ⟨hnested, ((read_iff_derives _ hnested).1 _).1 hread, htrailing, fun t h => ?_⟩
  have hnone : (read "Vec<i32,>").toOption = none := by decide +kernel
  rw [((read_iff_derives _ htrailing).1 t).2 h] at hnone
  cases hnone

end Rowsmith.TypeExpr

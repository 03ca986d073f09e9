/-
Reading a type by positions in its text. A position is a number of bytes; a
text can be cut there only if no character is cut (`sliceFrom`, `slice`).
The reader walks over the text by such positions (`readAt`): behind a
character of a path it goes on by the bytes of that character, and behind a
blank by one byte.

The walk agrees with the reader on the characters of the text step by step.
Where both go on, the position is that of a beginning of a type expression
(`StandsAt`), and where the walk would cut a character, it has made one step
over a blank of several bytes behind such a beginning (`Agrees`).

Main result: `boundaries_kept_iff`.
-/
import Rowsmith.Proofs.TypeExpr.Beginnings

namespace Rowsmith.TypeExpr

open Text Attempt

variable {text : String} {front s rest : List Char} {c : Char} {n d pos : Nat}

-- ============================================================ positions

/-- Why reading by positions ends without a type. -/
inductive Halt
  -- The text does not follow the grammar.
  | malformed
  -- The text was to be cut inside a character, at a position.
  | insideCharacter (pos : Nat)
  -- A part of the text was to end before it begins.
  | backwards (start stop : Nat)
deriving DecidableEq, Repr

/-- The characters from a position on. -/
def sliceFrom (text : String) (pos : Nat) : Except Halt (List Char) :=
  if h : (⟨pos⟩ : String.Pos.Raw).IsValid text then
    .ok (text.sliceFrom (text.pos ⟨pos⟩ h)).copy.toList
  else .error (.insideCharacter pos)

/-- The characters between two positions. -/
def slice (text : String) (start stop : Nat) : Except Halt (List Char) :=
  if hstart : (⟨start⟩ : String.Pos.Raw).IsValid text then
    if hstop : (⟨stop⟩ : String.Pos.Raw).IsValid text then
      if hle : text.pos ⟨start⟩ hstart ≤ text.pos ⟨stop⟩ hstop then
        .ok (text.slice _ _ hle).copy.toList
      else .error (.backwards start stop)
    else .error (.insideCharacter stop)
  else .error (.insideCharacter start)

/-- The character at a position, if it is not the end of the text. -/
def peek (text : String) (pos : Nat) : Except Halt (Option Char) := do
  return (← sliceFrom text pos).head?

/-- Positions of a text are where it can be split into two. -/
theorem isValid_iff : (⟨pos⟩ : String.Pos.Raw).IsValid text ↔
    ∃ front rest, text.toList = front ++ rest ∧ pos = (String.ofList front).utf8ByteSize := by
  rw [String.Pos.Raw.isValid_iff_exists_append]
  constructor
  · rintro ⟨s₁, s₂, rfl, hpos⟩
    refine ⟨s₁.toList, s₂.toList, String.toList_append, ?_⟩
    rw [String.ofList_toList]
    exact congrArg String.Pos.Raw.byteIdx hpos
  · rintro ⟨front, rest, htext, rfl⟩
    refine ⟨String.ofList front, String.ofList rest, ?_, rfl⟩
    rw [← String.ofList_append, ← htext, String.ofList_toList]

theorem sliceFrom_split (htext : text.toList = front ++ rest) :
    sliceFrom text (String.ofList front).utf8ByteSize = .ok rest := by
  have hvalid := isValid_iff.2 ⟨front, rest, htext, rfl⟩
  have hsplits : (text.pos _ hvalid).Splits (String.ofList front) (String.ofList rest) :=
    ⟨by rw [← String.ofList_append, ← htext, String.ofList_toList], rfl⟩
  rw [sliceFrom, dif_pos hvalid, hsplits.copy_sliceFrom_eq, String.toList_ofList]

theorem peek_split (htext : text.toList = front ++ rest) :
    peek text (String.ofList front).utf8ByteSize = .ok rest.head? := by
  rw [peek, sliceFrom_split htext]
  rfl

theorem utf8ByteSize_ofList_append (front run : List Char) :
    (String.ofList (front ++ run)).utf8ByteSize =
      (String.ofList front).utf8ByteSize + (String.ofList run).utf8ByteSize := by
  rw [String.ofList_append, String.utf8ByteSize_append]

theorem utf8ByteSize_ofList_cons (c : Char) (run : List Char) :
    (String.ofList (c :: run)).utf8ByteSize =
      c.utf8Size + (String.ofList run).utf8ByteSize := by
  rw [String.ofList_cons, String.utf8ByteSize_append, String.utf8ByteSize_singleton]

theorem slice_split {run : List Char} (htext : text.toList = front ++ (run ++ rest)) :
    slice text (String.ofList front).utf8ByteSize (String.ofList (front ++ run)).utf8ByteSize =
      .ok run := by
  have htext' : text.toList = (front ++ run) ++ rest := by rw [htext, List.append_assoc]
  have hstart := isValid_iff.2 ⟨front, run ++ rest, htext, rfl⟩
  have hstop := isValid_iff.2 ⟨front ++ run, rest, htext', rfl⟩
  have hsplits : (text.pos _ hstart).Splits (String.ofList front)
        (String.ofList run ++ String.ofList rest) ∧
      (text.pos _ hstop).Splits (String.ofList front ++ String.ofList run)
        (String.ofList rest) := by
    simp only [← String.ofList_append]
    exact ⟨⟨by rw [← String.ofList_append, ← htext, String.ofList_toList], rfl⟩,
      ⟨by rw [← String.ofList_append, ← htext', String.ofList_toList], rfl⟩⟩
  obtain ⟨hle, hcopy⟩ := String.copy_slice_eq_iff_splits.2 ⟨_, _, hsplits⟩
  rw [slice, dif_pos hstart, dif_pos hstop, dif_pos hle, hcopy, String.toList_ofList]

/-- One byte behind the beginning of a character of several bytes, a text
cannot be cut. -/
theorem sliceFrom_inside (htext : text.toList = front ++ c :: rest) (hc : 1 < c.utf8Size) :
    sliceFrom text ((String.ofList front).utf8ByteSize + 1) =
      .error (.insideCharacter ((String.ofList front).utf8ByteSize + 1)) := by
  rw [sliceFrom, dif_neg]
  rw [isValid_iff]
  rintro ⟨front', rest', htext', hpos⟩
  rw [htext] at htext'
  obtain ⟨more, rfl, hmore⟩ | ⟨more, rfl, -⟩ := List.append_eq_append_iff.1 htext'
  · cases more with
    | nil =>
        rw [List.append_nil] at hpos
        omega
    | cons c' more =>
        obtain ⟨rfl, -⟩ := List.cons.inj hmore
        rw [utf8ByteSize_ofList_append, utf8ByteSize_ofList_cons] at hpos
        omega
  · rw [utf8ByteSize_ofList_append] at hpos
    omega

-- ============================================================ reading

theorem lt_of_peek (h : peek text pos = .ok (some c)) : pos < text.utf8ByteSize := by
  obtain ⟨s, hslice, hhead⟩ := bind_eq_ok.1 h
  have hvalid : (⟨pos⟩ : String.Pos.Raw).IsValid text := by
    by_contra hinvalid
    rw [sliceFrom, dif_neg hinvalid] at hslice
    cases hslice
  obtain ⟨front, rest, htext, rfl⟩ := isValid_iff.1 hvalid
  rw [sliceFrom_split htext] at hslice
  obtain rfl := Except.ok.inj hslice
  have hcons := List.head?_eq_some_iff.1 (pure_eq_ok.1 hhead)
  obtain ⟨rest, rfl⟩ := hcons
  rw [← text.ofList_toList, htext, utf8ByteSize_ofList_append, utf8ByteSize_ofList_cons]
  have hc := c.utf8Size_pos
  omega

/-- Goes on behind all characters that pass a test, each time by a number of
bytes. -/
def walk (text : String) (test : Char → Bool) (step : Char → Nat) (hstep : ∀ c, 0 < step c)
    (pos : Nat) : Except Halt Nat :=
  match _h : peek text pos with
  | .ok (some c) => if test c then walk text test step hstep (pos + step c) else .ok pos
  | .ok none => .ok pos
  | .error e => .error e
termination_by text.utf8ByteSize - pos
decreasing_by
  have hlt := lt_of_peek _h
  have hc := hstep c
  omega

theorem walk_eq {test : Char → Bool} {step : Char → Nat} {hstep : ∀ c, 0 < step c} :
    walk text test step hstep pos = (do
      match ← peek text pos with
      | some c => if test c then walk text test step hstep (pos + step c) else return pos
      | none => return pos) := by
  rw [walk]
  split
  case h_1 h => rw [h]; rfl
  case h_2 h => rw [h]; rfl
  case h_3 h => rw [h]; rfl

/-- Behind the blanks at a position, with one byte for each. -/
def skipBlanksAt (text : String) (pos : Nat) : Except Halt Nat :=
  walk text isBlank (fun _ => 1) (fun _ => Nat.one_pos) pos

/-- Behind the characters of a path at a position, with all bytes of each. -/
def pathEndAt (text : String) (pos : Nat) : Except Halt Nat :=
  walk text isPathChar Char.utf8Size Char.utf8Size_pos pos

mutual

/-- Reads a type at a position of a text and returns where it ends. The
number bounds the nesting. -/
def readTypeAt (text : String) : Nat → Nat → Except Halt (TypeExpr × Nat)
  | 0, _ => .error .malformed
  | n + 1, pos => do
    let start ← skipBlanksAt text pos
    let stop ← pathEndAt text start
    let run ← slice text start stop
    if isPathText run then
      let pos ← skipBlanksAt text stop
      match ← peek text pos with
      | some '<' =>
        let (args, pos) ← readArgsAt text n (pos + 1)
        return (generic (String.ofList run) args, pos)
      | _ => return (named (String.ofList run), pos)
    else throw .malformed

/-- Reads arguments up to the position behind the closing bracket. -/
def readArgsAt (text : String) : Nat → Nat → Except Halt (List TypeExpr × Nat)
  | 0, _ => .error .malformed
  | n + 1, pos => do
    let (arg, pos) ← readTypeAt text n pos
    let pos ← skipBlanksAt text pos
    match ← peek text pos with
    | some ',' =>
      let (args, pos) ← readArgsAt text n (pos + 1)
      return (arg :: args, pos)
    | some '>' => return ([arg], pos + 1)
    | _ => throw .malformed

end

/-- Reads a whole text as a type, by positions. -/
def readAt (text : String) : Except Halt TypeExpr := do
  let (t, pos) ← readTypeAt text (2 * text.toList.length + 2) 0
  let pos ← skipBlanksAt text pos
  if pos = text.utf8ByteSize then return t else throw .malformed

-- =========================================================== agreement

variable {α β α' β' : Type} {stage : Stage}

/-- The position is that of a beginning of a type expression, and this is
what follows it. -/
def StandsAt (text : String) (d : Nat) (stage : Stage) (s : List Char) (pos : Nat) : Prop :=
  ∃ front, text.toList = front ++ s ∧ Begun front d stage ∧
    pos = (String.ofList front).utf8ByteSize

/-- The position is one byte behind the beginning of a blank of several
bytes, which follows a beginning of a type expression. -/
def InsideBlank (text : String) (pos : Nat) : Prop :=
  ∃ front c rest, text.toList = front ++ c :: rest ∧ (∃ d stage, Begun front d stage) ∧
    IsWideBlank c ∧ pos = (String.ofList front).utf8ByteSize + 1

/-- Reading by characters and by positions goes the same way: both give a
value, both refuse the text, or both stop at the same blank of several
bytes. -/
inductive Agrees (text : String) (R : α → β → Prop) : Except Refusal α → Except Halt β → Prop
  | ok {a : α} {b : β} (h : R a b) : Agrees text R (.ok a) (.ok b)
  | malformed : Agrees text R (.error .malformed) (.error .malformed)
  | cut {pos : Nat} (h : InsideBlank text pos) :
    Agrees text R (.error .splitBlank) (.error (.insideCharacter pos))

theorem Agrees.bind {R : α → β → Prop} {R' : α' → β' → Prop} {x : Except Refusal α}
    {y : Except Halt β} {f : α → Except Refusal α'} {g : β → Except Halt β'}
    (h : Agrees text R x y) (hbind : ∀ a b, R a b → Agrees text R' (f a) (g b)) :
    Agrees text R' (x >>= f) (y >>= g) := by
  cases h with
  | ok h => exact hbind _ _ h
  | malformed => exact .malformed
  | cut h => exact .cut h

theorem StandsAt.peek (h : StandsAt text d stage s pos) :
    TypeExpr.peek text pos = .ok s.head? := by
  obtain ⟨front, htext, -, rfl⟩ := h
  exact peek_split htext

/-- Looking at a position behind a beginning shows what follows there. -/
theorem StandsAt.look {R : α → β → Prop} {x : Except Refusal α} {g : Option Char → Except Halt β}
    (h : StandsAt text d stage s pos) (hlook : Agrees text R x (g s.head?)) :
    Agrees text R x (TypeExpr.peek text pos >>= g) := by
  rw [h.peek]
  exact hlook

/-- A beginning with one more character is a beginning. -/
theorem StandsAt.step {d' : Nat} {stage' : Stage} (h : StandsAt text d stage (c :: s) pos)
    (hbegun : ∀ front, Begun front d stage → Begun (front ++ [c]) d' stage') :
    StandsAt text d' stage' s (pos + c.utf8Size) := by
  obtain ⟨front, htext, hfront, rfl⟩ := h
  refine ⟨front ++ [c], ?_, hbegun front hfront, ?_⟩
  · rw [htext, List.append_assoc, List.singleton_append]
  · rw [utf8ByteSize_ofList_append, utf8ByteSize_ofList_cons]
    rfl

theorem StandsAt.skipBlanks (h : StandsAt text d stage s pos) :
    Agrees text (StandsAt text d stage) (TypeExpr.skipBlanks s) (skipBlanksAt text pos) := by
  induction s generalizing pos with
  | nil =>
      rw [skipBlanksAt, walk_eq, h.peek]
      exact .ok h
  | cons c s ih =>
      rw [skipBlanksAt, walk_eq, h.peek]
      show Agrees text _ _ (if isBlank c = true then skipBlanksAt text (pos + 1) else .ok pos)
      by_cases hblank : isBlank c = true
      · rw [if_pos hblank]
        by_cases hnarrow : c.utf8Size = 1
        · have hstep := h.step fun front hfront => hfront.blank hblank hnarrow
          rw [hnarrow] at hstep
          rw [skipBlanks_narrow hblank hnarrow]
          exact ih hstep
        · have hwide : IsWideBlank c := ⟨hblank, by have hc := c.utf8Size_pos; omega⟩
          obtain ⟨front, htext, hfront, rfl⟩ := h
          -- the step of one byte ends inside the blank, and the next look is from there
          rw [hwide.skipBlanks, skipBlanksAt, walk_eq, TypeExpr.peek,
            sliceFrom_inside htext hwide.2]
          exact .cut ⟨front, c, s, htext, ⟨d, stage, hfront⟩, hwide, rfl⟩
      · rw [if_neg hblank, skipBlanks_cons (Bool.eq_false_iff.2 hblank)]
        exact .ok h

theorem pathEndAt_split (htext : text.toList = front ++ s) :
    pathEndAt text (String.ofList front).utf8ByteSize =
      .ok (String.ofList (front ++ s.takeWhile isPathChar)).utf8ByteSize := by
  induction s generalizing front with
  | nil =>
      rw [pathEndAt, walk_eq, peek_split htext, List.takeWhile_nil, List.append_nil]
      rfl
  | cons c s ih =>
      rw [pathEndAt, walk_eq, peek_split htext]
      show (if isPathChar c = true then pathEndAt text _ else .ok _) = _
      by_cases hc : isPathChar c = true
      · have hnext : text.toList = (front ++ [c]) ++ s := by
          rw [htext, List.append_assoc, List.singleton_append]
        have hsize : (String.ofList (front ++ [c])).utf8ByteSize =
            (String.ofList front).utf8ByteSize + c.utf8Size := by
          rw [utf8ByteSize_ofList_append, utf8ByteSize_ofList_cons]
          rfl
        rw [if_pos hc, ← hsize, ih hnext, List.takeWhile_cons_of_pos hc, List.append_assoc,
          List.singleton_append]
      · rw [if_neg hc, List.takeWhile_cons_of_neg hc, List.append_nil]

/-- Where a type is to follow, the run of path characters is found, and if
it is a path, then there is a beginning behind it. -/
theorem StandsAt.run (h : StandsAt text d .awaiting s pos) :
    ∃ stop, pathEndAt text pos = .ok stop ∧
      slice text pos stop = .ok (s.takeWhile isPathChar) ∧
      (isPathText (s.takeWhile isPathChar) = true →
        StandsAt text d .path (s.dropWhile isPathChar) stop) := by
  obtain ⟨front, htext, hfront, rfl⟩ := h
  have hsplit := s.takeWhile_append_dropWhile (p := isPathChar)
  have htext' := htext.trans (congrArg (front ++ ·) hsplit.symm)
  refine ⟨_, pathEndAt_split htext, slice_split htext', fun hrun => ?_⟩
  refine ⟨_, htext'.trans (List.append_assoc _ _ _).symm, ?_, rfl⟩
  have hbegun := hfront.path (isPath_takeWhile hrun)
  rwa [String.toList_ofList] at hbegun

/-- The same is read, up to the same place behind a beginning that may
end. -/
def ReadTo (text : String) (d : Nat) (r : α × List Char) (r' : α × Nat) : Prop :=
  r.1 = r'.1 ∧ ∃ stage, stage ≠ .awaiting ∧ StandsAt text d stage r.2 r'.2

/-- Wherever a type or arguments are to follow, both readers go the same
way. -/
theorem agrees_of_standsAt (n : Nat) :
    (∀ d s pos, StandsAt text d .awaiting s pos →
      Agrees text (ReadTo text d) (readType n s) (readTypeAt text n pos)) ∧
    ∀ d s pos, StandsAt text (d + 1) .awaiting s pos →
      Agrees text (ReadTo text d) (readArgs n s) (readArgsAt text n pos) := by
  -- both readers count the same number down
  induction n with
  | zero => exact ⟨fun _ _ _ _ => .malformed, fun _ _ _ _ => .malformed⟩
  | succ n ih =>
      obtain ⟨htype, hargs⟩ := ih
      constructor
      · intro d s pos h
        rw [readType, readTypeAt]
        refine h.skipBlanks.bind fun s₁ start h₁ => ?_
        obtain ⟨stop, hend, hslice, hpath⟩ := h₁.run
        rw [hend]
        show Agrees text _ _ (slice text start stop >>= _)
        rw [hslice]
        show Agrees text _ (if isPathText (s₁.takeWhile isPathChar) = true then _ else _)
          (if isPathText (s₁.takeWhile isPathChar) = true then _ else _)
        by_cases hrun : isPathText (s₁.takeWhile isPathChar) = true
        case neg =>
          rw [if_neg hrun, if_neg hrun]
          exact .malformed
        case pos =>
          rw [if_pos hrun, if_pos hrun]
          refine (hpath hrun).skipBlanks.bind fun s₂ pos₂ h₂ => ?_
          refine h₂.look ?_
          split
          case h_1 s₃ =>
            have h₃ := h₂.step fun front hfront => hfront.opened
            refine (hargs _ _ _ h₃).bind fun r r' hr => ?_
            obtain ⟨args, s₄⟩ := r
            obtain ⟨args', pos'⟩ := r'
            obtain ⟨rfl, hr⟩ := hr
            exact .ok ⟨rfl, hr⟩
          case h_2 hno =>
            split
            case h_1 heq =>
              obtain ⟨s₃, rfl⟩ := List.head?_eq_some_iff.1 heq
              exact absurd rfl (hno s₃)
            case h_2 => exact .ok ⟨rfl, .path, by decide, h₂⟩
      · intro d s pos h
        rw [readArgs, readArgsAt]
        refine (htype _ _ _ h).bind fun r r' hr => ?_
        obtain ⟨arg, s₁⟩ := r
        obtain ⟨arg', pos₁⟩ := r'
        obtain ⟨rfl, stage, hstage, h₁⟩ := hr
        refine h₁.skipBlanks.bind fun s₂ pos₂ h₂ => ?_
        refine h₂.look ?_
        split
        case h_1 s₃ =>
          have h₃ := h₂.step fun front hfront => hfront.next hstage
          refine (hargs _ _ _ h₃).bind fun r r' hr => ?_
          obtain ⟨args, s₄⟩ := r
          obtain ⟨args', pos'⟩ := r'
          obtain ⟨rfl, hr⟩ := hr
          exact .ok ⟨rfl, hr⟩
        case h_2 s₃ =>
          have h₃ := h₂.step fun front hfront => hfront.closed hstage
          exact .ok ⟨rfl, .closed, by decide, h₃⟩
        case h_3 hcomma hclose =>
          split
          case h_1 heq =>
            obtain ⟨s₃, rfl⟩ := List.head?_eq_some_iff.1 heq
            exact absurd rfl (hcomma s₃)
          case h_2 heq =>
            obtain ⟨s₃, rfl⟩ := List.head?_eq_some_iff.1 heq
            exact absurd rfl (hclose s₃)
          case h_3 => exact .malformed

/-- A whole text is read the same way by both readers. -/
theorem read_agrees (text : String) : Agrees text (· = ·) (read text) (readAt text) := by
  have hstart : StandsAt text 0 .awaiting text.toList 0 := ⟨[], rfl, .start, rfl⟩
  unfold read readAt
  refine ((agrees_of_standsAt _).1 _ _ _ hstart).bind fun r r' hr => ?_
  obtain ⟨t, s⟩ := r
  obtain ⟨t', pos⟩ := r'
  obtain ⟨rfl, stage, -, h⟩ := hr
  refine h.skipBlanks.bind fun s₁ pos₁ h₁ => ?_
  have hend : s₁.isEmpty = true ↔ pos₁ = text.utf8ByteSize := by
    obtain ⟨front, htext, -, rfl⟩ := h₁
    rw [← text.ofList_toList, htext, utf8ByteSize_ofList_append, List.isEmpty_iff]
    cases s₁ with
    | nil => simp
    | cons c s₁ =>
        have hc := c.utf8Size_pos
        rw [utf8ByteSize_ofList_cons]
        constructor
        · exact nofun
        · omega
  by_cases hempty : s₁.isEmpty = true
  · rw [if_pos hempty, if_pos (hend.1 hempty)]
    exact .ok rfl
  · rw [if_neg hempty, if_neg (mt hend.2 hempty)]
    exact .malformed

theorem InsideBlank.unique {pos' : Nat} (h : InsideBlank text pos) (h' : InsideBlank text pos') :
    pos = pos' := by
  obtain ⟨front, c, rest, htext, ⟨d, stage, hfront⟩, hc, rfl⟩ := h
  obtain ⟨front', c', rest', htext', ⟨d', stage', hfront'⟩, hc', rfl⟩ := h'
  obtain rfl := hfront.unique hc hfront' hc' (htext.symm.trans htext')
  rfl

theorem InsideBlank.read_error (h : InsideBlank text pos) : read text = .error .splitBlank := by
  obtain ⟨front, c, rest, htext, ⟨d, stage, hfront⟩, hc, -⟩ := h
  exact hfront.read_error hc htext

theorem InsideBlank.readAt_error (h : InsideBlank text pos) :
    readAt text = .error (.insideCharacter pos) := by
  have hagrees := read_agrees text
  rw [h.read_error] at hagrees
  generalize readAt text = byPositions at hagrees ⊢
  cases hagrees with
  | cut h' => rw [h.unique h']

/-- The reader cuts a text only between characters, but where a blank of
several bytes follows a beginning of a type expression: there, and only
there, it cuts the text inside that blank, one byte behind its beginning.
Any other text is read as a type or refused, by positions as by characters,
and it names a type in either case. -/
theorem boundaries_kept_iff (text : String) :
    (∀ pos, readAt text = .error (.insideCharacter pos) ↔ InsideBlank text pos) ∧
    (∀ start stop, readAt text ≠ .error (.backwards start stop)) ∧
    (∀ t, readAt text = .ok t ↔ read text = .ok t) ∧
    (readAt text = .error .malformed ↔ read text = .error .malformed) ∧
    ((∃ t, ofText text = .ok t) ↔ ∀ pos, ¬ InsideBlank text pos) := by
  have hcut : ∀ pos, InsideBlank text pos → readAt text = .error (.insideCharacter pos) :=
    fun pos h => h.readAt_error
  have hagrees := read_agrees text
  unfold ofText
  generalize read text = byChars at hagrees ⊢
  generalize readAt text = byPositions at hagrees hcut ⊢
  cases hagrees with
  | @ok t _ h =>
      obtain rfl := h
      have hnone : ∀ pos, ¬ InsideBlank text pos := fun pos h => nomatch hcut pos h
      refine ⟨fun pos => ⟨nofun, hcut pos⟩, nofun, fun t' => ?_, ⟨nofun, nofun⟩,
        fun _ => hnone, fun _ => ⟨t, rfl⟩⟩
      rw [Except.ok.injEq, Except.ok.injEq]
  | malformed =>
      have hnone : ∀ pos, ¬ InsideBlank text pos := fun pos h => nomatch hcut pos h
      exact ⟨fun pos => ⟨nofun, hcut pos⟩, nofun, fun t => ⟨nofun, nofun⟩,
        ⟨fun _ => rfl, fun _ => rfl⟩, fun _ => hnone, fun _ => ⟨_, rfl⟩⟩
  | @cut pos h =>
      refine ⟨fun pos' => ⟨fun heq => ?_, hcut pos'⟩, nofun, fun t => ⟨nofun, nofun⟩,
        ⟨nofun, nofun⟩, nofun, fun hnone => absurd h (hnone pos)⟩
      obtain rfl := Halt.insideCharacter.inj (Except.error.inj heq)
      exact h

/-- A no-break space in front of a type is a blank of two bytes. The reader
steps over one of them and cuts the text there, so that no type is named. -/
theorem no_break_space_cut : readAt "\u00a0model::User" = .error (.insideCharacter 1) ∧
    ofText "\u00a0model::User" = .error .splitCharacter := by
  have hwide : IsWideBlank '\u00a0' := ⟨by decide +kernel, by decide +kernel⟩
  have htext : "\u00a0model::User".toList = [] ++ '\u00a0' :: "model::User".toList := by
    decide +kernel
  have hinside : InsideBlank "\u00a0model::User" 1 :=
    ⟨[], '\u00a0', _, htext, ⟨0, .awaiting, .start⟩, hwide, rfl⟩
  refine ⟨hinside.readAt_error, ?_⟩
  rw [ofText, hinside.read_error]

end Rowsmith.TypeExpr

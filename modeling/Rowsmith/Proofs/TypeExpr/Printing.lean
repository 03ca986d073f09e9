/-
Printed types are read again.

The printer puts the arguments of a type between angle brackets, with a
comma and a space before each further one; the reader allows blanks almost
everywhere and stops wherever a type can go no further. So what has to be
known of the text behind a type is only what it begins with. Behind a
printed type there is a comma or a closing bracket, or nothing (`Closes`),
and none of these belongs to a path, is a blank or opens arguments. The
induction is on the type, with any such text behind it
(`IsPlain.readsBack`, `readArgs_print`).

The reader carries a number that bounds the nesting. It is used up by
brackets and commas, and each of them was printed, so the length of the
text is enough.

Conversely the reader makes nothing but types of this kind
(`isPlain_of_reads`).

Main result: `types_survive_printing`.
-/
import Rowsmith.Proofs.Attempt
import Rowsmith.TypeExpr.Reader

namespace Rowsmith.TypeExpr

open Text Attempt

variable {path : String} {t arg : TypeExpr} {args : List TypeExpr} {s rest run : List Char}
  {n : Nat}

-- ================================================================= types

/-- The text of a path: letters, digits, underscores and colons, but no
colon at either end. -/
structure IsPath (path : String) : Prop where
  nonempty : path ≠ ""
  chars : ∀ c ∈ path.toList, isAlphanumeric c = true ∨ c = '_' ∨ c = ':'
  head : path.toList.head? ≠ some ':'
  last : path.toList.getLast? ≠ some ':'

/-- At every level a type is a path type, with the text of a path. -/
inductive IsPlain : TypeExpr → Prop
  | mk {path : String} {args : List TypeExpr} (hpath : IsPath path)
    (hargs : ∀ arg ∈ args, IsPlain arg) : IsPlain (.mk path args .path)

theorem isPathChar_iff {c : Char} :
    isPathChar c = true ↔ isAlphanumeric c = true ∨ c = '_' ∨ c = ':' := by
  simp only [isPathChar, Bool.or_eq_true, beq_iff_eq, or_assoc]

/-- The reader has the same notion of a path. -/
theorem isPath_iff : IsPath path ↔
    isPathText path.toList = true ∧ ∀ c ∈ path.toList, isPathChar c = true := by
  have htext : isPathText path.toList = true ↔
      (path ≠ "" ∧ path.toList.head? ≠ some ':') ∧ path.toList.getLast? ≠ some ':' := by
    simp only [isPathText, Bool.and_eq_true, Bool.not_eq_true', List.isEmpty_eq_false_iff, ne_eq,
      String.toList_eq_nil_iff, bne_iff_ne]
  rw [htext]
  constructor
  · intro h
    exact ⟨⟨⟨h.nonempty, h.head⟩, h.last⟩, fun c hc => isPathChar_iff.2 (h.chars c hc)⟩
  · rintro ⟨⟨⟨hnonempty, hhead⟩, hlast⟩, hchars⟩
    exact ⟨hnonempty, fun c hc => isPathChar_iff.1 (hchars c hc), hhead, hlast⟩

/-- The run of path characters at the front of a text is a path if the
reader takes it for one. -/
theorem isPath_takeWhile (h : isPathText (s.takeWhile isPathChar) = true) :
    IsPath (String.ofList (s.takeWhile isPathChar)) := by
  rw [isPath_iff, String.toList_ofList]
  exact ⟨h, List.all_eq_true.1 List.all_takeWhile⟩

-- ================================================================ blanks

theorem skipBlanks_cons {c : Char} (h : isBlank c = false) (rest : List Char) :
    skipBlanks (c :: rest) = .ok (c :: rest) := by
  rw [skipBlanks, h]
  rfl

theorem isBlank_of_isPathChar {c : Char} (h : isPathChar c = true) : isBlank c = false :=
  isBlank_eq_false (by decide +kernel) h

/-- A space before a type does not matter. -/
theorem readType_space : readType n (' ' :: s) = readType n s := by
  cases n with
  | zero => rfl
  | succ n => rfl

theorem readArgs_space : readArgs n (' ' :: s) = readArgs n s := by
  cases n with
  | zero => rfl
  | succ n => rw [readArgs, readType_space, readArgs]

/-- A text that ends arguments, or comes after the last one: it begins with
a comma or a closing bracket, if with anything. -/
def Closes (rest : List Char) : Prop := ∀ c ∈ rest.head?, c = ',' ∨ c = '>'

theorem Closes.skipBlanks (h : Closes rest) : TypeExpr.skipBlanks rest = .ok rest := by
  cases rest with
  | nil => rfl
  | cons c rest =>
      rcases h c rfl with rfl | rfl
      · exact skipBlanks_cons (by decide) rest
      · exact skipBlanks_cons (by decide) rest

theorem Closes.not_isPathChar (h : Closes rest) : ∀ c ∈ rest.head?, isPathChar c = false := by
  intro c hc
  rcases h c hc with rfl | rfl
  · decide
  · decide

-- ============================================================== printing

theorem toList_print_cons (path : String) (arg : TypeExpr) (args : List TypeExpr)
    (shape : TypeShape) : (print (.mk path (arg :: args) shape)).toList =
      path.toList ++ '<' :: ((print arg).toList ++ ((printMore args).toList ++ ['>'])) := by
  simp only [print, String.toList_append, List.append_assoc]
  rfl

theorem toList_printMore_cons (arg : TypeExpr) (args : List TypeExpr) :
    (printMore (arg :: args)).toList =
      ',' :: ' ' :: ((print arg).toList ++ (printMore args).toList) := by
  simp only [printMore, String.toList_append, List.append_assoc]
  rfl

/-- Behind an argument stands what ends it. -/
theorem closes_printMore (args : List TypeExpr) (rest : List Char) :
    Closes ((printMore args).toList ++ '>' :: rest) := by
  intro c hc
  cases args with
  | nil => exact .inr (Option.some.inj hc).symm
  | cons arg args =>
      rw [toList_printMore_cons] at hc
      exact .inl (Option.some.inj hc).symm

-- =============================================================== reading

theorem takeWhile_path (hpath : ∀ c ∈ run, isPathChar c = true)
    (hrest : ∀ c ∈ rest.head?, isPathChar c = false) :
    (run ++ rest).takeWhile isPathChar = run ∧ (run ++ rest).dropWhile isPathChar = rest := by
  rw [List.takeWhile_append_of_pos hpath, List.dropWhile_append_of_pos hpath]
  cases rest with
  | nil => exact ⟨List.append_nil run, rfl⟩
  | cons c rest =>
      have hc : isPathChar c = false := hrest c rfl
      rw [List.takeWhile_cons_of_neg (Bool.eq_false_iff.1 hc),
        List.dropWhile_cons_of_neg (Bool.eq_false_iff.1 hc)]
      exact ⟨List.append_nil run, rfl⟩

/-- The reader takes a path to be as long as it can be. -/
theorem readType_path (hpath : IsPath path) (hrest : ∀ c ∈ rest.head?, isPathChar c = false) :
    readType (n + 1) (path.toList ++ rest) = (do
      match ← skipBlanks rest with
      | '<' :: s =>
        let (args, s) ← readArgs n s
        return (generic path args, s)
      | s => return (named path, s)) := by
  obtain ⟨htext, hchars⟩ := isPath_iff.1 hpath
  obtain ⟨htake, hdrop⟩ := takeWhile_path hchars hrest
  have hstart : skipBlanks (path.toList ++ rest) = .ok (path.toList ++ rest) := by
    obtain ⟨c, chars, hcons⟩ := List.exists_cons_of_ne_nil
      (mt String.toList_eq_nil_iff.1 hpath.nonempty)
    have hc : isPathChar c = true := hchars c (hcons ▸ List.mem_cons_self)
    rw [hcons, List.cons_append]
    exact skipBlanks_cons (isBlank_of_isPathChar hc) _
  rw [readType, hstart]
  show (if isPathText ((path.toList ++ rest).takeWhile isPathChar) = true then _ else _) = _
  rw [htake, hdrop, String.ofList_toList]
  exact if_pos htext

theorem readType_named (hpath : IsPath path) (hrest : Closes rest) :
    readType (n + 1) (path.toList ++ rest) = .ok (named path, rest) := by
  rw [readType_path hpath hrest.not_isPathChar, hrest.skipBlanks]
  cases rest with
  | nil => rfl
  | cons c rest => rcases hrest c rfl with rfl | rfl <;> rfl

theorem readType_generic (hpath : IsPath path) (hargs : readArgs n s = .ok (args, rest)) :
    readType (n + 1) (path.toList ++ '<' :: s) = .ok (generic path args, rest) := by
  have hbracket : ∀ c ∈ ('<' :: s).head?, isPathChar c = false := by
    intro c hc
    obtain rfl := Option.some.inj hc
    decide
  rw [readType_path hpath hbracket, skipBlanks_cons (by decide)]
  show (readArgs n s >>= fun x => pure (generic path x.1, x.2)) = _
  rw [hargs]
  rfl

/-- A type is read again wherever it closes: printed, with any text behind
it that ends it, if the number covers its length. -/
def ReadsBack (t : TypeExpr) : Prop :=
  ∀ n rest, (print t).toList.length ≤ n → Closes rest →
    readType n ((print t).toList ++ rest) = .ok (t, rest)

theorem readArgs_last (harg : readType n s = .ok (arg, '>' :: rest)) :
    readArgs (n + 1) s = .ok ([arg], rest) := by
  rw [readArgs, harg]
  dsimp only [bind, Except.bind]
  rw [skipBlanks_cons (by decide)]
  rfl

theorem readArgs_more {s' : List Char} (harg : readType n s = .ok (arg, ',' :: s'))
    (hargs : readArgs n s' = .ok (args, rest)) : readArgs (n + 1) s = .ok (arg :: args, rest) := by
  rw [readArgs, harg]
  dsimp only [bind, Except.bind]
  rw [skipBlanks_cons (by decide)]
  show (readArgs n s' >>= fun x => pure (arg :: x.1, x.2)) = _
  rw [hargs]
  rfl

/-- Arguments that are read again one by one are so together, up to the
closing bracket. -/
theorem readArgs_print (hargs : ∀ a ∈ arg :: args, ReadsBack a)
    (hn : (print arg).toList.length + (printMore args).toList.length < n) :
    readArgs n ((print arg).toList ++ ((printMore args).toList ++ '>' :: rest)) =
      .ok (arg :: args, rest) := by
  induction args generalizing arg n with
  | nil =>
      obtain ⟨n, rfl⟩ := Nat.exists_eq_succ_of_ne_zero (Nat.ne_zero_of_lt hn)
      have harg := hargs arg List.mem_cons_self n _ (by omega) (closes_printMore [] rest)
      exact readArgs_last harg
  | cons a args ih =>
      obtain ⟨n, rfl⟩ := Nat.exists_eq_succ_of_ne_zero (Nat.ne_zero_of_lt hn)
      obtain ⟨harg, hmore⟩ := List.forall_mem_cons.1 hargs
      have hread := harg n _ (by omega) (closes_printMore (a :: args) rest)
      rw [toList_printMore_cons] at hn hread ⊢
      simp only [List.cons_append, List.append_assoc, List.length_cons,
        List.length_append] at hn hread ⊢
      refine readArgs_more hread ?_
      rw [readArgs_space]
      exact ih hmore (by omega)

/-- Every type that is plain at every level is read again. -/
theorem IsPlain.readsBack (h : t.IsPlain) : ReadsBack t := by
  induction h with
  | @mk path args hpath hargs ih =>
      intro n rest hn hrest
      have hlength : 0 < path.toList.length :=
        List.length_pos_iff.2 (mt String.toList_eq_nil_iff.1 hpath.nonempty)
      cases args with
      | nil =>
          have hprint : print (.mk path [] .path) = path := rfl
          rw [hprint] at hn ⊢
          obtain ⟨n, rfl⟩ := Nat.exists_eq_succ_of_ne_zero (n := n) (by omega)
          exact readType_named hpath hrest
      | cons arg args =>
          rw [toList_print_cons] at hn ⊢
          simp only [List.length_append, List.length_cons, List.length_nil] at hn
          obtain ⟨n, rfl⟩ := Nat.exists_eq_succ_of_ne_zero (n := n) (by omega)
          simp only [List.append_assoc, List.cons_append, List.nil_append]
          exact readType_generic hpath (readArgs_print ih (by omega))

-- ============================================================== converse

/-- Whatever the reader gives is plain at every level. -/
theorem isPlain_of_reads (n : Nat) :
    (∀ s t rest, readType n s = .ok (t, rest) → t.IsPlain) ∧
    ∀ s args rest, readArgs n s = .ok (args, rest) → ∀ arg ∈ args, arg.IsPlain := by
  induction n with
  | zero =>
      constructor
      · exact fun _ _ _ h => nomatch h
      · exact fun _ _ _ h => nomatch h
  | succ n ih =>
      obtain ⟨htype, hargs⟩ := ih
      constructor
      · intro s t rest h
        rw [readType] at h
        obtain ⟨s, -, h⟩ := bind_eq_ok.1 h
        dsimp only at h
        split at h
        case isFalse => cases h
        case isTrue htext =>
          have hpath := isPath_takeWhile htext
          obtain ⟨s, -, h⟩ := bind_eq_ok.1 h
          split at h
          · obtain ⟨⟨args, s⟩, hread, h⟩ := bind_eq_ok.1 h
            cases h
            exact .mk hpath (hargs _ _ _ hread)
          · cases h
            exact .mk hpath fun arg harg => absurd harg List.not_mem_nil
      · intro s args rest h
        rw [readArgs] at h
        obtain ⟨⟨arg, s⟩, harg, h⟩ := bind_eq_ok.1 h
        obtain ⟨s, -, h⟩ := bind_eq_ok.1 h
        have hfirst := htype _ _ _ harg
        split at h
        · obtain ⟨⟨args, s⟩, hread, h⟩ := bind_eq_ok.1 h
          cases h
          exact List.forall_mem_cons.2 ⟨hfirst, hargs _ _ _ hread⟩
        · cases h
          exact List.forall_mem_singleton.2 hfirst
        · cases h

theorem IsPlain.read_print (h : t.IsPlain) : read t.print = .ok t := by
  have hread := h.readsBack (2 * t.print.toList.length + 2) [] (by omega)
    fun c hc => absurd hc (by simp)
  rw [List.append_nil] at hread
  unfold read
  dsimp only
  rw [hread]
  rfl

theorem isPlain_of_read {text : String} (h : read text = .ok t) : t.IsPlain := by
  unfold read at h
  obtain ⟨⟨t', rest⟩, hread, h⟩ := bind_eq_ok.1 h
  obtain ⟨rest', -, h⟩ := bind_eq_ok.1 h
  split at h
  · cases h
    exact (isPlain_of_reads _).1 _ _ _ hread
  · cases h

/-- Types survive printing. A type that is a path type with the text of a
path at every level is read again from its printed form, and whatever text
is read as a type, the type is of this kind, so that printing and reading it
once more changes nothing. -/
theorem types_survive_printing :
    (∀ t : TypeExpr, t.IsPlain → read t.print = .ok t) ∧
    ∀ (text : String) (t : TypeExpr), read text = .ok t → t.IsPlain ∧ read t.print = .ok t :=
  ⟨fun _ h => h.read_print, fun _ _ h => ⟨isPlain_of_read h, (isPlain_of_read h).read_print⟩⟩

/-- A type with arguments within arguments. -/
def nestedType : TypeExpr :=
  generic "a::Map" [named "K", generic "Option" [generic "Vec" [named "b::V"]]]

/-- The type is read from a text with blanks where they may stand, and from
its printed form. -/
theorem types_survive_printing_nested :
    read " a::Map < K ,Option<Vec<b::V >\n>>\t" = .ok nestedType ∧ nestedType.IsPlain ∧
      nestedType.print = "a::Map<K, Option<Vec<b::V>>>" ∧
      read nestedType.print = .ok nestedType := by
  have hread : read " a::Map < K ,Option<Vec<b::V >\n>>\t" = .ok nestedType :=
    toOption_eq_some.1 (by decide +kernel)
  obtain ⟨hplain, -⟩ := types_survive_printing.2 _ _ hread
  exact ⟨hread, hplain, by decide, types_survive_printing.1 _ hplain⟩

end Rowsmith.TypeExpr

/-
What fits on lines. A line buffer takes a text that is a single line, and
refuses any other. What is put between quotes always is one, since a line
break is quoted by an escape, and so is a number. The constants of a table
are quoted (`isSingleLine_constant`), and what is written around the body of
a unit are the names that it brings into scope (`unitFile_isOk`).
-/
import Rowsmith.Proofs.Writing.Names
import Rowsmith.Proofs.Writing.TableCode

namespace Rowsmith

-- ================================================================ texts

namespace Text

/-- A text is a single line if none of its characters breaks the line. -/
theorem isSingleLine_iff {s : String} :
    isSingleLine s = true ↔ ∀ c ∈ s.toList, isLineBreak c = false := by
  unfold isSingleLine
  simp only [List.all_eq_true, Bool.not_eq_true']

theorem isSingleLine_append (a b : String) :
    isSingleLine (a ++ b) = (isSingleLine a && isSingleLine b) := by
  unfold isSingleLine
  rw [String.toList_append, List.all_append]

/-- A text that is written out is looked at as it is spelled. -/
theorem isSingleLine_ofList {l : List Char} (h : (l.all fun c => !isLineBreak c) = true) :
    isSingleLine (String.ofList l) = true := by
  unfold isSingleLine
  rw [String.toList_ofList]
  exact h

theorem isLineBreak_digitChar (n : Nat) : isLineBreak (Nat.digitChar n) = false := by
  have hfeed : Nat.digitChar n ≠ '\n' := Nat.digitChar_ne _ (by decide)
  have hreturn : Nat.digitChar n ≠ '\r' := Nat.digitChar_ne _ (by decide)
  simp [isLineBreak, hfeed, hreturn]

theorem mem_toDigitsCore {b fuel n : Nat} {acc : List Char} {c : Char}
    (h : c ∈ Nat.toDigitsCore b fuel n acc) : c ∈ acc ∨ ∃ d, c = Nat.digitChar d := by
  induction fuel generalizing n acc with
  | zero => exact Or.inl h
  | succ fuel ih =>
      have hdigit : ∀ d, c ∈ Nat.digitChar d :: acc → c ∈ acc ∨ ∃ d, c = Nat.digitChar d := by
        intro d hc
        rcases List.mem_cons.1 hc with rfl | hc
        · exact Or.inr ⟨d, rfl⟩
        · exact Or.inl hc
      unfold Nat.toDigitsCore at h
      dsimp only at h
      split at h
      · exact hdigit _ h
      · rcases ih h with h | h
        · exact hdigit _ h
        · exact Or.inr h

theorem isLineBreak_of_mem_toDigits {b n : Nat} {c : Char} (h : c ∈ Nat.toDigits b n) :
    isLineBreak c = false := by
  rcases mem_toDigitsCore h with h | ⟨d, rfl⟩
  · cases h
  · exact isLineBreak_digitChar d

theorem isSingleLine_toString (n : Nat) : isSingleLine (toString n) = true := by
  rw [Nat.toString_eq_ofList_toDigits, isSingleLine_iff, String.toList_ofList]
  exact fun c hc => isLineBreak_of_mem_toDigits hc

/-- A character is quoted on the line. -/
theorem isLineBreak_of_mem_quotedChar {c d : Char} (h : d ∈ quotedChar c) :
    isLineBreak d = false := by
  have hplain : ∀ l : List Char, (l.all fun c => !isLineBreak c) = true → d ∈ l →
      isLineBreak d = false := by
    intro l hl hd
    simpa using List.all_eq_true.1 hl d hd
  unfold quotedChar at h
  split_ifs at h with hquote hbackslash hfeed hreturn
  rotate_left 6
  · rcases List.mem_append.1 h with h | h
    · rcases List.mem_append.1 h with h | h
      · exact hplain _ (by decide) h
      · exact isLineBreak_of_mem_toDigits h
    · exact hplain _ (by decide) h
  · obtain rfl := List.mem_singleton.1 h
    exact Bool.or_eq_false_iff.2 ⟨Bool.eq_false_iff.2 hfeed, Bool.eq_false_iff.2 hreturn⟩
  all_goals exact hplain _ (by decide) h

theorem isSingleLine_quoted (s : String) : isSingleLine (quoted s) = true := by
  unfold quoted
  rw [isSingleLine_iff, String.toList_ofList]
  intro c hc
  rcases List.mem_append.1 hc with hc | hc
  · rcases List.mem_append.1 hc with hc | hc
    · obtain rfl := List.mem_singleton.1 hc
      rfl
    · obtain ⟨d, -, hc⟩ := List.mem_flatMap.1 hc
      exact isLineBreak_of_mem_quotedChar hc
  · obtain rfl := List.mem_singleton.1 hc
    rfl

theorem isSingleLine_intercalate {delimiter : String} {items : List String}
    (hdelimiter : isSingleLine delimiter = true)
    (h : ∀ item ∈ items, isSingleLine item = true) :
    isSingleLine (String.intercalate delimiter items) = true := by
  induction items with
  | nil =>
      rw [String.intercalate_nil]
      decide
  | cons item items ih =>
      obtain ⟨hitem, hitems⟩ := List.forall_mem_cons.1 h
      cases items with
      | nil =>
          rw [String.intercalate_singleton]
          exact hitem
      | cons next items =>
          rw [String.intercalate_cons_cons, isSingleLine_append, isSingleLine_append, hitem,
            hdelimiter, ih hitems]
          rfl

end Text

namespace Emit

open Text

-- ================================================================ lines

theorem pushAll_isOk {lines : List String} (h : ∀ line ∈ lines, isSingleLine line = true)
    (b : Lines) : ∃ b', b.pushAll lines = .ok b' :=
  Attempt.foldlM_succeeds (fun line hline _ => ⟨_, Lines.push_eq_ok.2 ⟨h line hline, rfl⟩⟩) b

-- ============================================================ constants

theorem isSingleLine_constant {name : String} (h : isSingleLine name = true) (value : String) :
    isSingleLine (constant name value) = true := by
  have hbefore : isSingleLine "pub const " = true := isSingleLine_ofList (by decide)
  have hbetween : isSingleLine ": &'static str = " = true := isSingleLine_ofList (by decide)
  have hafter : isSingleLine ";" = true := isSingleLine_ofList (by decide)
  unfold constant
  simp only [isSingleLine_append, hbefore, h, hbetween, isSingleLine_quoted, hafter, Bool.and_self]

theorem isSingleLine_statementNames {name : String} (h : name ∈ statementNames) :
    isSingleLine name = true := by
  have hall : (statementNames.all isSingleLine) = true := by decide +kernel
  exact List.all_eq_true.1 hall name h

-- ============================================================= the unit

/-- A file can be written if the names that it brings into scope can. -/
theorem unitFile_isOk {uses : Uses} (h : ∀ line ∈ uses.declarations, isSingleLine line = true)
    (location : Location) (body : Lines) : ∃ file, unitFile location uses body = .ok file := by
  have hheader : isSingleLine header = true := isSingleLine_ofList (by decide)
  have hempty : isSingleLine "" = true := by decide
  obtain ⟨top, htop⟩ := pushAll_isOk (List.forall_mem_cons.2
    ⟨hheader, List.forall_mem_singleton.2 hempty⟩) Lines.empty
  obtain ⟨declarations, hdeclarations⟩ := pushAll_isOk h Lines.empty
  exact ⟨_, Attempt.bind_eq_ok.2 ⟨top, htop, Attempt.bind_eq_ok.2 ⟨declarations, hdeclarations,
    Attempt.bind_eq_ok.2 ⟨_, Lines.push_eq_ok.2 ⟨hempty, rfl⟩, rfl⟩⟩⟩⟩

end Emit

end Rowsmith

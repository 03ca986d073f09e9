/-
Names and the paths they make. A path is a text: names with double colons
between them. So that a path can be taken apart again and compared name by
name, none of its names may hold a colon or be empty; then the text
determines the names (`joinPath_inj`), and the segments of a module are
those its path was put together from (`moduleSegments_joinPath`).

A name is what the lexer reads as one word. Words may be written with the
marker of a raw identifier. The names of declarations are kept without it
(`plainName`), but the words of a path are kept as they are written, so a
path with a marker in it is not the path of any declaration
(`IsName.plainName`).
-/
import Mathlib.Data.List.TakeWhile
import Rowsmith.Proofs.TypeExpr.Segments
import Rowsmith.Source.Declarations

namespace Rowsmith.Source

open Text

variable {l l' m names : List String} {n w : String}

-- ================================================================ names

/-- A name: the lexer reads it as one word, and it may be marked as
raw. -/
structure IsName (n : String) : Prop where
  word : scanWord n.toList = some []
  markable : n ∉ neverRaw

/-- A name as it may be written, with or without the marker. -/
def IsWord (w : String) : Prop := IsName (plainName w)

instance (n : String) : Decidable (IsName n) :=
  decidable_of_iff (scanWord n.toList = some [] ∧ n ∉ neverRaw)
    ⟨fun h => ⟨h.1, h.2⟩, fun h => ⟨h.word, h.markable⟩⟩

instance (w : String) : Decidable (IsWord w) := inferInstanceAs (Decidable (IsName (plainName w)))

/-- What may stand between double colons. -/
structure IsSegment (n : String) : Prop where
  nonempty : n ≠ ""
  noColon : ':' ∉ n.toList

/-- A name begins like an identifier and goes on like one. -/
theorem IsName.chars (h : IsName n) : ∃ c rest, n.toList = c :: rest ∧
    isIdentStart c = true ∧ ∀ d ∈ n.toList, isIdentContinue d = true := by
  have hword := h.word
  cases hn : n.toList with
  | nil =>
      rw [hn] at hword
      cases hword
  | cons c rest =>
      rw [hn, scanWord] at hword
      split at hword
      case isFalse => cases hword
      case isTrue hc =>
        have hrest := List.dropWhile_eq_nil_iff.1 (Option.some.inj hword)
        exact ⟨c, rest, rfl, hc,
          List.forall_mem_cons.2 ⟨isIdentContinue_of_isIdentStart hc, hrest⟩⟩

theorem IsName.not_mem {c : Char} (h : IsName n) (hc : isIdentContinue c = false) :
    c ∉ n.toList := by
  obtain ⟨-, -, -, -, hall⟩ := h.chars
  intro hmem
  exact Bool.noConfusion ((hall c hmem).symm.trans hc)

theorem IsName.ne_empty (h : IsName n) : n ≠ "" := by
  obtain ⟨c, rest, hn, -⟩ := h.chars
  rintro rfl
  cases hn

theorem IsName.isSegment (h : IsName n) : IsSegment n where
  nonempty := h.ne_empty
  noColon := h.not_mem (by decide)

/-- A name has no marker. -/
theorem IsName.plainName (h : IsName n) : plainName n = n := by
  have hmark := h.not_mem (c := '#') (by decide)
  unfold Source.plainName
  split
  case h_1 rest hn =>
    rw [hn] at hmark
    simp at hmark
  case h_2 => rfl

theorem IsName.isWord (h : IsName n) : IsWord n := by
  unfold IsWord
  rwa [h.plainName]

/-- A word is its name, or its name behind the marker. -/
theorem eq_or_marked (w : String) : w = plainName w ∨ w = "r#" ++ plainName w := by
  unfold plainName
  split
  case h_1 rest hw =>
    refine Or.inr (String.toList_inj.1 ?_)
    rw [hw, String.toList_append, String.toList_ofList, String.toList_ofList]
    rfl
  case h_2 => exact Or.inl rfl

theorem IsWord.isSegment (h : IsWord w) : IsSegment w := by
  rcases eq_or_marked w with hw | hw
  · rw [hw]
    exact IsName.isSegment h
  · obtain ⟨-, hcolon⟩ := IsName.isSegment h
    rw [hw]
    constructor
    · intro hempty
      have hlength := congrArg String.toList hempty
      rw [String.toList_append] at hlength
      cases hlength
    · rw [String.toList_append, List.mem_append]
      exact not_or.2 ⟨by decide, hcolon⟩

-- ================================================================ paths

theorem joinPath_cons_cons (n n' : String) (l : List String) :
    joinPath (n :: n' :: l) = n ++ "::" ++ joinPath (n' :: l) :=
  String.intercalate_cons_cons

/-- A path of a name or more is cut into its names again. -/
theorem segments_joinPath (hl : l ≠ []) (h : ∀ n ∈ l, IsSegment n) :
    (TypeExpr.segments (joinPath l).toList).map String.ofList = l := by
  induction l with
  | nil => exact absurd rfl hl
  | cons n l ih =>
      obtain ⟨hn, hrest⟩ := List.forall_mem_cons.1 h
      cases l with
      | nil =>
          have hone : joinPath [n] = n := String.intercalate_singleton
          rw [hone, TypeExpr.segments_of_not_mem hn.noColon]
          simp
      | cons n' l =>
          rw [joinPath_cons_cons, String.toList_append, String.toList_append, List.append_assoc]
          have hcut := TypeExpr.segments_append hn.noColon (joinPath (n' :: l)).toList
          have hcolons : "::".toList ++ (joinPath (n' :: l)).toList =
              ':' :: ':' :: (joinPath (n' :: l)).toList := rfl
          rw [hcolons, hcut, List.map_cons, String.ofList_toList,
            ih (List.cons_ne_nil _ _) hrest]

/-- The segments of a module are the names of its path. -/
theorem moduleSegments_joinPath (h : ∀ n ∈ l, IsSegment n) : moduleSegments (joinPath l) = l := by
  unfold moduleSegments
  cases l with
  | nil => rfl
  | cons n l =>
      rw [segments_joinPath (List.cons_ne_nil _ _) h, List.filter_eq_self]
      intro n' hn'
      simpa using (h n' hn').nonempty

/-- A path determines its names. -/
theorem joinPath_inj (h : ∀ n ∈ l, IsSegment n) (h' : ∀ n ∈ l', IsSegment n) :
    joinPath l = joinPath l' ↔ l = l' := by
  refine ⟨fun heq => ?_, congrArg joinPath⟩
  rw [← moduleSegments_joinPath h, heq, moduleSegments_joinPath h']

/-- The path of a name in a module is that of the module and the name. -/
theorem pathIn_joinPath (hm : ∀ n ∈ m, IsSegment n) (n : String) :
    pathIn (joinPath m) n = joinPath (m ++ [n]) := by
  unfold pathIn
  cases m with
  | nil => exact String.intercalate_singleton.symm
  | cons n' m =>
      have hne : (joinPath (n' :: m)).isEmpty = false := by
        rw [Bool.eq_false_iff, ne_eq, String.isEmpty_iff]
        intro hempty
        have hsegments := moduleSegments_joinPath hm
        rw [hempty] at hsegments
        cases hsegments
      rw [hne, if_neg Bool.false_ne_true]
      clear hne
      induction m generalizing n' with
      | nil =>
          rw [show joinPath [n'] = n' from String.intercalate_singleton, List.singleton_append,
            joinPath_cons_cons, show joinPath [n] = n from String.intercalate_singleton]
      | cons n'' m ih =>
          obtain ⟨-, hrest⟩ := List.forall_mem_cons.1 hm
          rw [List.cons_append, List.cons_append, joinPath_cons_cons, joinPath_cons_cons,
            ← List.cons_append, ← ih n'' hrest]
          simp only [String.append_assoc]

-- =========================================================== short names

/-- The short name of a path is its last name. -/
theorem lastSegment_joinPath (hm : ∀ n ∈ m, IsSegment n) (hn : IsSegment n) :
    TypeExpr.lastSegment (joinPath (m ++ [n])) = n := by
  rw [← pathIn_joinPath hm]
  unfold TypeExpr.lastSegment pathIn
  by_cases hroot : (joinPath m).isEmpty = true
  · rw [if_pos hroot, TypeExpr.cutLast_of_not_mem hn.noColon]
  · have hcolons : (joinPath m ++ "::" ++ n).toList =
        (joinPath m).toList ++ ':' :: ':' :: n.toList := by
      rw [String.toList_append, String.toList_append, List.append_assoc]
      rfl
    rw [if_neg hroot, hcolons, TypeExpr.cutLast_append _ hn.noColon]
    exact String.ofList_toList

end Rowsmith.Source

/-
Where a path is cut. It is cut into segments at every double colon, from
the front on (`segments_append`).

What comes before the last segment is cut off at the last double colon, and
double colons may overlap: of three colons in a row the last two are taken.
So the last segment holds no double colon, and would not begin with one if
there were a colon before it. That, and that the path is put together again
from what was cut, is all there is to say of this cut
(`cutLast_eq_some_iff`). A path is not cut if there is no double colon in it
(`cutLast_eq_none_iff`).
-/
import Rowsmith.TypeExpr

namespace Rowsmith.TypeExpr

variable {l before after : List Char} {c : Char}

-- ============================================================ segments

theorem segments_of_not_mem (h : ':' ∉ l) : segments l = [l] := by
  induction l with
  | nil => rfl
  | cons c l ih =>
      obtain ⟨hc, hl⟩ := List.ne_and_not_mem_of_not_mem_cons h
      rw [segments, ih hl]
      rintro rest rfl
      exact fun _ => absurd rfl hc

/-- Up to its first double colon a text is the first segment. -/
theorem segments_append (h : ':' ∉ l) (rest : List Char) :
    segments (l ++ ':' :: ':' :: rest) = l :: segments rest := by
  induction l with
  | nil => rfl
  | cons c l ih =>
      obtain ⟨hc, hl⟩ := List.ne_and_not_mem_of_not_mem_cons h
      rw [List.cons_append, segments, ih hl]
      rintro rest rfl
      exact fun _ => absurd rfl hc

/-- The characters of a segment are those of the path. -/
theorem mem_of_mem_segments {segment : List Char} (hsegment : segment ∈ segments l)
    (hc : c ∈ segment) : c ∈ l := by
  fun_induction segments l generalizing segment with
  | case1 =>
      obtain rfl := List.mem_singleton.1 hsegment
      exact hc
  | case2 rest ih =>
      rcases List.mem_cons.1 hsegment with rfl | hsegment
      · cases hc
      · exact List.mem_cons_of_mem _ (List.mem_cons_of_mem _ (ih hsegment hc))
  | case3 c' rest _ hrest ih =>
      obtain rfl := List.mem_singleton.1 hsegment
      exact List.mem_cons.2 (Or.inl (List.mem_singleton.1 hc))
  | case4 c' rest _ first more hrest ih =>
      rw [hrest] at ih
      rcases List.mem_cons.1 hsegment with rfl | hsegment
      · rcases List.mem_cons.1 hc with rfl | hc
        · exact List.mem_cons_self
        · exact List.mem_cons_of_mem _ (ih List.mem_cons_self hc)
      · exact List.mem_cons_of_mem _ (ih (List.mem_cons_of_mem _ hsegment) hc)

-- ============================================================= the cut

/-- A character before a double colon goes with what is before the last
one. -/
theorem cutLast_cons (c : Char) (h : cutLast l = some (before, after)) :
    cutLast (c :: l) = some (c :: before, after) := by
  by_cases hcolons : ∃ rest, c = ':' ∧ l = ':' :: rest
  · obtain ⟨rest, rfl, rfl⟩ := hcolons
    rw [cutLast, h]
  · rw [cutLast, h]
    exact fun rest hc hl => hcolons ⟨rest, hc, hl⟩

/-- A character without a double colon behind it is where a path is cut if
it begins one. -/
theorem cutLast_cons_of_none (h : cutLast l = none) :
    cutLast (c :: l) = some (before, after) ↔ c = ':' ∧ l = ':' :: after ∧ before = [] := by
  unfold cutLast
  rw [h]
  dsimp only
  split
  case h_1 after' =>
    rw [Option.some_inj, Prod.mk.injEq]
    exact ⟨fun ⟨hbefore, hafter⟩ => ⟨rfl, hafter ▸ rfl, hbefore.symm⟩,
      fun ⟨_, hafter, hbefore⟩ => ⟨hbefore.symm, (List.cons.inj hafter).2⟩⟩
  case h_2 hcolons =>
    exact ⟨nofun, fun ⟨hc, hl, _⟩ => absurd hl (hcolons _ hc)⟩

/-- A path is cut unless there is no double colon in it. -/
theorem cutLast_eq_none_iff : cutLast l = none ↔ ¬[':', ':'] <:+: l := by
  induction l with
  | nil => exact iff_of_true rfl fun h => nomatch List.infix_nil.1 h
  | cons c l ih =>
      rw [List.infix_cons_iff, List.cons_prefix_cons]
      cases hrest : cutLast l with
      | some cut =>
          have hcolons : [':', ':'] <:+: l :=
            Classical.not_not.1 (mt ih.2 (Option.ne_none_iff_exists'.2 ⟨cut, hrest⟩))
          rw [cutLast_cons c hrest]
          exact ⟨nofun, fun h => absurd (Or.inr hcolons) h⟩
      | none =>
          rw [Option.eq_none_iff_forall_ne_some, or_iff_left (ih.1 hrest)]
          constructor
          · rintro hne ⟨rfl, after, rfl⟩
            exact hne ([], after) ((cutLast_cons_of_none hrest).2 ⟨rfl, rfl, rfl⟩)
          · rintro hcolons ⟨before, after⟩ hcut
            obtain ⟨rfl, rfl, -⟩ := (cutLast_cons_of_none hrest).1 hcut
            exact hcolons ⟨rfl, after, rfl⟩

/-- A cut takes out a double colon, and no other one stands behind its first
colon. -/
theorem cutLast_eq_some_iff : cutLast l = some (before, after) ↔
    l = before ++ ':' :: ':' :: after ∧ cutLast (':' :: after) = none := by
  constructor
  · intro h
    induction l generalizing before with
    | nil => cases h
    | cons c l ih =>
        cases hrest : cutLast l with
        | some cut =>
            rw [cutLast_cons c hrest] at h
            obtain ⟨rfl, rfl⟩ := Prod.mk.inj (Option.some.inj h)
            obtain ⟨hl, hnone⟩ := ih hrest
            exact ⟨congrArg (c :: ·) hl, hnone⟩
        | none =>
            obtain ⟨rfl, rfl, rfl⟩ := (cutLast_cons_of_none hrest).1 h
            exact ⟨rfl, hrest⟩
  · rintro ⟨rfl, hnone⟩
    induction before with
    | nil => exact (cutLast_cons_of_none hnone).2 ⟨rfl, rfl, rfl⟩
    | cons c before ih => exact cutLast_cons c ih

theorem mem_of_cutLast (h : cutLast l = some (before, after)) : before ⊆ l ∧ after ⊆ l := by
  obtain ⟨rfl, -⟩ := cutLast_eq_some_iff.1 h
  refine ⟨List.subset_append_left _ _, List.subset_append_of_subset_right _ ?_⟩
  exact List.subset_cons_of_subset _ (List.subset_cons_self ..)

theorem cutLast_of_not_mem (h : ':' ∉ l) : cutLast l = none :=
  cutLast_eq_none_iff.2 fun hcolons => h (hcolons.subset List.mem_cons_self)

/-- A text is cut where the last double colon stands. -/
theorem cutLast_append (before : List Char) (h : ':' ∉ after) :
    cutLast (before ++ ':' :: ':' :: after) = some (before, after) := by
  refine cutLast_eq_some_iff.2 ⟨rfl, Option.eq_none_iff_forall_ne_some.2 fun cut hcut => ?_⟩
  obtain ⟨-, rfl, -⟩ := (cutLast_cons_of_none (cutLast_of_not_mem h)).1 hcut
  exact h List.mem_cons_self

-- ==================================================== the last segment

/-- A path ends in its last segment. -/
theorem lastSegment_suffix (path : String) : (lastSegment path).toList <:+ path.toList := by
  unfold lastSegment
  split
  case h_1 before after hcut =>
    rw [(cutLast_eq_some_iff.1 hcut).1, String.toList_ofList]
    exact ⟨before ++ [':', ':'], by simp⟩
  case h_2 => exact List.suffix_rfl

/-- Nothing is left to cut in a last segment. -/
theorem cutLast_lastSegment (path : String) : cutLast (lastSegment path).toList = none := by
  unfold lastSegment
  split
  case h_1 before after hcut =>
    have hnone := cutLast_eq_none_iff.1 (cutLast_eq_some_iff.1 hcut).2
    rw [String.toList_ofList]
    exact cutLast_eq_none_iff.2 fun hcolons => hnone (hcolons.trans (List.suffix_cons ..).isInfix)
  case h_2 hnone => exact hnone

/-- A path of several segments is not the last segment of any path. -/
theorem ne_lastSegment {path : String} (h : (cutLast path.toList).isSome = true) (other : String) :
    path ≠ lastSegment other := by
  rintro rfl
  rw [cutLast_lastSegment] at h
  cases h

end Rowsmith.TypeExpr

/-
What a context adds to a failure.

Whether the outer failure takes the other as its cause or is taken over
whole by a new link makes no difference to the message, which is that of
the outer failure followed by that of the other, nor to the root. Nor can it
be seen on any other value, since a link is altered only when nobody else
holds it. So messages compose, however values are shared
(`context_composes`).

The model that was being processed is another matter. It is looked for along
causes alone, and a failure that was taken over whole is no cause: what it
records is no longer found (`modelContext?_context`). So a context is
recorded for good only if its failure is fresh and held by nobody else, or
if there was nothing to be lost (`context_recorded_iff`).
-/
import Rowsmith.Proofs.Failure.Sharing

namespace Rowsmith.Failure

variable (e outer : Failure) (exclusive : Bool)

-- =============================================================== context

/-- A failure with a context: the outer failure takes the other as its
cause, if it may and has none yet, or else a new link stands for it. -/
theorem context_cases :
    ((exclusive = true ∧ outer.cause? = none) ∧
      ((∃ report, outer = .link report none ∧
          e.context outer exclusive = .link report (some e)) ∨
        ∃ inner, outer = .taken inner none ∧
          e.context outer exclusive = .taken inner (some e))) ∨
    (¬ (exclusive = true ∧ outer.cause? = none) ∧
      e.context outer exclusive = .taken outer (some e)) := by
  match outer, exclusive with
  | .link report none, true => exact .inl ⟨⟨rfl, rfl⟩, .inl ⟨report, rfl, rfl⟩⟩
  | .taken inner none, true => exact .inl ⟨⟨rfl, rfl⟩, .inr ⟨inner, rfl, rfl⟩⟩
  | .link report none, false => exact .inr ⟨fun h => Bool.noConfusion h.1, rfl⟩
  | .taken inner none, false => exact .inr ⟨fun h => Bool.noConfusion h.1, rfl⟩
  | .link report (some cause), _ => exact .inr ⟨fun h => Option.some_ne_none cause h.2, rfl⟩
  | .taken inner (some cause), _ => exact .inr ⟨fun h => Option.some_ne_none cause h.2, rfl⟩

theorem message_context :
    (e.context outer exclusive).message = outer.message ++ ": " ++ e.message := by
  rcases context_cases e outer exclusive with ⟨-, ⟨report, rfl, h⟩ | ⟨inner, rfl, h⟩⟩ | ⟨-, h⟩
  all_goals
    rw [h]
    rfl

theorem root_context : (e.context outer exclusive).root = e.root := by
  rcases context_cases e outer exclusive with ⟨-, ⟨report, rfl, h⟩ | ⟨inner, rfl, h⟩⟩ | ⟨-, h⟩
  all_goals
    rw [h]
    rfl

/-- The outer failure's record is found only if this failure takes the other
as its cause. -/
theorem modelContext?_context : (e.context outer exclusive).modelContext? =
    if exclusive = true ∧ outer.cause? = none then outer.modelContext?.or e.modelContext?
    else e.modelContext? := by
  rcases context_cases e outer exclusive with ⟨hfresh, h⟩ | ⟨hnot, h⟩
  · rw [if_pos hfresh]
    rcases h with ⟨report, rfl, h⟩ | ⟨inner, rfl, h⟩
    · rw [h]
      cases report <;> rfl
    · rw [h]
      rfl
  · rw [if_neg hnot, h]
    rfl

namespace Shelf

variable {s : Shelf} {o i : Nat} {rest : List Nat}

-- ============================================================== messages

/-- Messages compose. The failure with a context has the message of the
context, a colon and the message of the failure, and its root is that of the
failure. Every failure that some other value holds is what it was before,
with its root: the copies of both that were made, and whatever these are held
in. -/
theorem context_composes (hs : s.Built) (hpile : s.pile = o :: i :: rest) :
    ∃ outer inner whole new, s.read o = some outer ∧ s.read i = some inner ∧
      s.context.pile = new :: rest ∧ s.context.read new = some whole ∧
      whole.message = outer.message ++ ": " ++ inner.message ∧
      whole.root = inner.root ∧ s.context.rootOf new = s.rootOf i ∧
      ∀ p, s.HeldBy (i :: rest) p → ∃ kept, s.read p = some kept ∧
        s.context.read p = some kept ∧ s.context.rootOf p = s.rootOf p := by
  obtain ⟨outer, inner, new, houter, hinner, hnew, hread, hroot, hkeeps⟩ :=
    context_ok hs.readable hpile
  refine ⟨outer, inner, _, new, houter, hinner, hnew, hread, message_context .., root_context ..,
    hroot, fun p ⟨value, hvalue, hp⟩ => ?_⟩
  obtain ⟨e, he⟩ := hs.readable value (hpile ▸ List.mem_cons_of_mem o hvalue)
  obtain ⟨kept, hkept⟩ := exists_readAt_of_leads he hp
  have hkeep : s.Keeps s.context p := (hkeeps value hvalue).of_leads hp
  exact ⟨kept, hkept, hkeep.read hkept, hkeep.rootOf hkept⟩

theorem Built.swap (hs : s.Built) : s.swap.Built := by
  unfold Shelf.swap
  split
  case h_1 a b rest hpile => exact hs.reorder (hpile ▸ List.Perm.swap ..)
  case h_2 => exact hs

/-- A failure, and on top of it one to be its context, of which a copy lies
below. The latter has a cause already. -/
def causedShelf : Shelf :=
  ((((Shelf.empty.pushReport (.adhoc "writing")).pushReport
    (.processing "User" none)).context.copy 0).pushReport (.adhoc "disk full")).swap

/-- The context has a cause and is held twice; its copy is kept. -/
theorem context_composes_caused : causedShelf.Built ∧ causedShelf.pile = [1, 2, 1] ∧
    ∃ outer inner whole new, causedShelf.read 1 = some outer ∧ causedShelf.read 2 = some inner ∧
      causedShelf.context.pile = [new, 1] ∧ causedShelf.context.read new = some whole ∧
      whole.message = outer.message ++ ": " ++ inner.message ∧
      whole.root = inner.root ∧ causedShelf.context.rootOf new = causedShelf.rootOf 2 ∧
      ∀ p, causedShelf.HeldBy [2, 1] p → ∃ kept, causedShelf.read p = some kept ∧
        causedShelf.context.read p = some kept ∧
        causedShelf.context.rootOf p = causedShelf.rootOf p := by
  have hbuilt : causedShelf.Built :=
    (((((Built.empty.pushReport _).pushReport _).context).copy 0).pushReport _).swap
  have hpile : causedShelf.pile = [1, 2, 1] := by decide
  exact ⟨hbuilt, hpile, context_composes hbuilt hpile⟩

-- =============================================================== records

/-- What a failure with a context records. If the context has no cause and no
other value holds it, its own record comes first; or else only that of the
failure is found. So the record of the context is lost unless the context is
such a one, records nothing, or records the same as the failure. -/
theorem context_recorded_iff (hs : s.Built) (hpile : s.pile = o :: i :: rest) :
    ∃ outer inner whole, s.read o = some outer ∧ s.read i = some inner ∧
      s.context.top = some whole ∧
      (¬ (¬ s.HeldBy (i :: rest) o ∧ outer.cause? = none) →
        whole.modelContext? = inner.modelContext?) ∧
      (whole.modelContext? = outer.modelContext?.or inner.modelContext? ↔
        (¬ s.HeldBy (i :: rest) o ∧ outer.cause? = none) ∨ outer.modelContext? = none ∨
          outer.modelContext? = inner.modelContext?) := by
  obtain ⟨outer, inner, new, houter, hinner, hnew, hread, -, -⟩ := context_ok hs.readable hpile
  have hheld : (!s.isHeld (i :: rest) o) = true ↔ ¬ s.HeldBy (i :: rest) o := by
    have hrest : ∀ p ∈ i :: rest, ∃ e, s.read p = some e := fun p hp =>
      hs.readable p (hpile ▸ List.mem_cons_of_mem o hp)
    rw [Bool.not_eq_true', ← Bool.not_eq_true, isHeld_iff hrest]
  have htop : s.context.top = some (inner.context outer (!s.isHeld (i :: rest) o)) := by
    unfold top
    rw [hnew]
    exact hread
  refine ⟨outer, inner, _, houter, hinner, htop, ?_⟩
  rw [modelContext?_context, ← hheld]
  split
  case isTrue hfresh => exact ⟨fun hnot => absurd hfresh hnot, fun _ => .inl hfresh, fun _ => rfl⟩
  case isFalse hnot =>
    refine ⟨fun _ => rfl, fun hsame => .inr ?_, fun h => ?_⟩
    · cases houter : outer.modelContext? with
      | none => exact .inl rfl
      | some record =>
          rw [houter] at hsame
          exact .inr hsame.symm
    · rcases h.resolve_left hnot with hnone | hsame
      · rw [hnone, Option.none_or]
      · rw [hsame, Option.or_self]

/-- A failure, and on top of it one that records a model, of which a copy
lies below. -/
def sharedShelf : Shelf :=
  (((Shelf.empty.pushReport (.processing "User" none)).copy 0).pushReport (.adhoc "disk full")).swap

theorem context_recorded_shared : sharedShelf.Built ∧ sharedShelf.pile = [0, 1, 0] ∧
    ∃ outer inner whole, sharedShelf.read 0 = some outer ∧ sharedShelf.read 1 = some inner ∧
      sharedShelf.context.top = some whole ∧
      (¬ (¬ sharedShelf.HeldBy [1, 0] 0 ∧ outer.cause? = none) →
        whole.modelContext? = inner.modelContext?) ∧
      (whole.modelContext? = outer.modelContext?.or inner.modelContext? ↔
        (¬ sharedShelf.HeldBy [1, 0] 0 ∧ outer.cause? = none) ∨ outer.modelContext? = none ∨
          outer.modelContext? = inner.modelContext?) := by
  have hbuilt : sharedShelf.Built := (((Built.empty.pushReport _).copy 0).pushReport _).swap
  have hpile : sharedShelf.pile = [0, 1, 0] := by decide
  exact ⟨hbuilt, hpile, context_recorded_iff hbuilt hpile⟩

/-- The model recorded by a context of which there is a copy is not found
afterwards. -/
theorem record_lost_shared : sharedShelf.Built ∧ sharedShelf.pile = [0, 1, 0] ∧
    (sharedShelf.read 0).bind modelContext? = some ("User", none) ∧
    (sharedShelf.read 1).bind modelContext? = none ∧
    sharedShelf.context.top.bind modelContext? = none := by
  have hbuilt : sharedShelf.Built := (((Built.empty.pushReport _).copy 0).pushReport _).swap
  exact ⟨hbuilt, by decide, by decide, by decide, by decide⟩

end Shelf

end Rowsmith.Failure

/-
Lists that are related item by item: what holds of the items of one holds
of their partners in the other. And lists in which each item is kept once.
-/
import Mathlib.Data.List.Forall2
import Mathlib.Data.List.Nodup
import Mathlib.Data.Option.Basic

namespace Rowsmith.Related

variable {α β : Type} {R : α → β → Prop} {l : List α} {bs : List β}

/-- An item has its partner. -/
theorem exists_mem (h : List.Forall₂ R l bs) {a : α} (ha : a ∈ l) : ∃ b ∈ bs, R a b := by
  induction h with
  | nil => cases ha
  | @cons a' b l bs hb _ ih =>
      rcases List.mem_cons.1 ha with rfl | ha
      · exact ⟨b, List.mem_cons_self, hb⟩
      · obtain ⟨b', hmem, hb'⟩ := ih ha
        exact ⟨b', List.mem_cons_of_mem _ hmem, hb'⟩

/-- Items that could each have a partner have them all. -/
theorem exists_forall₂ (h : ∀ a ∈ l, ∃ b, R a b) : ∃ bs, List.Forall₂ R l bs := by
  induction l with
  | nil => exact ⟨[], .nil⟩
  | cons a l ih =>
      obtain ⟨⟨b, hb⟩, hl⟩ := List.forall_mem_cons.1 h
      obtain ⟨bs, hbs⟩ := ih hl
      exact ⟨b :: bs, .cons hb hbs⟩

/-- What is the same of an item and of its partner is the same of the lists. -/
theorem map_eq {γ : Type} {f : α → γ} {g : β → γ} (h : List.Forall₂ R l bs)
    (hfg : ∀ a b, R a b → f a = g b) : l.map f = bs.map g := by
  have hsame : List.Forall₂ (· = ·) (l.map f) (bs.map g) :=
    List.forall₂_map_left_iff.2 (List.forall₂_map_right_iff.2 (h.imp hfg))
  rwa [List.forall₂_eq_eq_eq] at hsame

/-- The first items that are looked for are partners, if it is the same
that is looked for. -/
theorem find?_rel {p : α → Bool} {q : β → Bool} (hpq : ∀ a b, R a b → p a = q b)
    (h : List.Forall₂ R l bs) : Option.Rel R (l.find? p) (bs.find? q) := by
  induction h with
  | nil => exact .none
  | @cons a b l bs hb _ ih =>
      rw [List.find?_cons, List.find?_cons, hpq a b hb]
      cases q b with
      | true => exact .some hb
      | false => exact ih

theorem nodup_eraseDups [BEq α] [LawfulBEq α] (l : List α) : l.eraseDups.Nodup := by
  induction hlength : l.length using Nat.strongRecOn generalizing l with
  | ind n ih =>
      cases l with
      | nil => exact List.nodup_nil
      | cons a l =>
          rw [List.eraseDups_cons, List.nodup_cons, List.mem_eraseDups]
          refine ⟨by simp, ih (l.filter fun b => !b == a).length ?_ _ rfl⟩
          have hfilter := List.length_filter_le (fun b => !b == a) l
          rw [List.length_cons] at hlength
          omega

end Rowsmith.Related

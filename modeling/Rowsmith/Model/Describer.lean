/-
Describers: whoever tells the resolver which fields a type has. A catalog
is one; another may be given as a script that answers a type differently
each time it is asked.

An answer may depend on everything that was asked before, which covers
every deterministic way of keeping state between two questions. What a
describer may not do is describe types without end: it can describe only
finitely many, and this is what makes the construction of nested
structures end.
-/
import Rowsmith.Model.Catalog

namespace Rowsmith

/-- Tells which fields a type has. -/
structure Describer where
  -- The types that can be described.
  declared : List TypeExpr
  -- The fields of a type, given the types asked for before, oldest
  -- first.
  fields : List TypeExpr → TypeExpr → Except Failure (List FieldDecl)
  -- No other type can be described.
  fails_outside : ∀ asked type, type ∉ declared → ∃ e, fields asked type = .error e

/-- A catalog describes the types it declares, always alike. -/
def Catalog.describer (c : Catalog) : Describer where
  declared := c.decls.map (·.type)
  fields := fun _ type => c.describe type
  fails_outside := by
    intro _ type h
    apply Catalog.describe_error_of_find?_eq_none
    rw [Catalog.find?, List.find?_eq_none]
    intro d hd
    simp only [decide_eq_true_eq]
    exact fun e => h (List.mem_map.2 ⟨d, hd, e⟩)

/-- Whatever a catalog describes it declares. -/
theorem Catalog.mem_declared (c : Catalog) {type : TypeExpr} {fields : List FieldDecl}
    (h : c.describe type = .ok fields) : type ∈ c.describer.declared := by
  apply Classical.byContradiction
  intro htype
  obtain ⟨e, he⟩ := c.describer.fails_outside [] type htype
  cases h.symm.trans he

/-- A script: for some types the lists of fields to answer with, one for
each time the type is asked for. The last list is repeated. -/
abbrev Script := List (TypeExpr × List (List FieldDecl))

/-- The answer to a question after `asked`, when the type has been given
these lists. -/
def scriptedAnswer (answers : List (List FieldDecl)) (asked : List TypeExpr)
    (type : TypeExpr) : List FieldDecl :=
  ((answers.drop (min (asked.count type) (answers.length - 1))).head?).getD []

/-- A catalog with a script for some types. -/
def Catalog.scriptedDescriber (c : Catalog) (script : Script) : Describer where
  declared := script.map (·.1) ++ c.decls.map (·.type)
  fields := fun asked type =>
    match findAssoc? script type with
    | some answers => .ok (scriptedAnswer answers asked type)
    | none => c.describe type
  fails_outside := by
    intro asked type h
    rw [List.mem_append, not_or] at h
    have hs : findAssoc? script type = none := by
      rw [findAssoc?, Option.map_eq_none_iff, List.find?_eq_none]
      intro e he
      simp only [decide_eq_true_eq]
      exact fun heq => h.1 (List.mem_map.2 ⟨e, he, heq⟩)
    simp only [hs]
    exact c.describer.fails_outside [] type h.2

/-- With no script the catalog answers for every type. -/
theorem Catalog.scriptedDescriber_nil (c : Catalog) : c.scriptedDescriber [] = c.describer :=
  rfl

end Rowsmith

/-
Parts of nested structures: the columns they spread over, the parameters
their adapters take, and the columns that are always set. All three
follow the parts down to the single columns, so each fact has a half for
one part and a half for several.

Columns are named from the outside in, with a prefix that grows on the way
down; so are parameters, but at the outermost level they have no prefix.
What makes the two agree is that prefixes compose
(`Naming.compound_assoc`): going down with a longer prefix gives the names
of going down without one, each with the prefix put before it
(`Emit.paramsOfAll_some`). From this the columns of a structure are its
parameters under another name (`Structure.columns_eq`).
-/
import Rowsmith.Emit.Plan

namespace Rowsmith

open Emit

/-- An existing adapter stores its columns as it declares them. -/
theorem ProvidedAdapter.storages_columnsUnder (a : ProvidedAdapter) (name : String) :
    (a.columnsUnder name).map (·.storage) = a.columns.map (·.storage) := by
  unfold columnsUnder
  split
  case h_1 c h => rw [h]; rfl
  case h_2 => rw [List.map_map]; rfl

namespace Part

mutual

/-- A part with a column that is always set has a column. -/
theorem columns_ne_nil_of_isRequired (name : String) : (part : Part) → part.isRequired = true →
    columns name part ≠ []
  | .native _ _, _ => by simp [columns]
  | .mapped _ _, _ => by simp [columns]
  | .adapted head adapter, h => by
      unfold isRequired at h
      rw [Bool.and_eq_true, decide_eq_true_eq] at h
      intro hnil
      have hlength := adapter.length_columnsUnder (Naming.compound name head.storageName)
      unfold columns at hnil
      rw [hnil] at hlength
      have hpos := h.2
      rw [← hlength] at hpos
      cases hpos
  | .nested head type parts, h => by
      unfold isRequired at h
      rw [Bool.and_eq_true] at h
      unfold columns
      exact columnsAll_ne_nil_of_isRequiredAny _ parts h.2

theorem columnsAll_ne_nil_of_isRequiredAny (name : String) : (parts : List Part) →
    isRequiredAny parts = true → columnsAll name parts ≠ []
  | [], h => by cases h
  | part :: rest, h => by
      unfold isRequiredAny at h
      rw [Bool.or_eq_true] at h
      unfold columnsAll
      intro hnil
      obtain ⟨hpart, hrest⟩ := List.append_eq_nil_iff.1 hnil
      rcases h with h | h
      · exact columns_ne_nil_of_isRequired name part h hpart
      · exact columnsAll_ne_nil_of_isRequiredAny name rest h hrest

end

end Part

-- ============================================================ parameters

/-- Names are put together from the outside or from the inside alike. -/
theorem Naming.compound_assoc (outer middle inner : String) :
    compound (compound outer middle) inner = compound outer (compound middle inner) := by
  unfold compound
  simp only [String.append_assoc]

/-- An existing adapter names its columns alike under a longer name. -/
theorem ProvidedAdapter.columnsUnder_compound (a : ProvidedAdapter) (outer name : String) :
    a.columnsUnder (Naming.compound outer name) =
      (a.columnsUnder name).map fun c => ⟨Naming.compound outer c.name, c.storage⟩ := by
  unfold columnsUnder
  split
  case h_1 c h => rfl
  case h_2 =>
    rw [List.map_map]
    apply List.map_congr_left
    intro c _
    rw [Naming.compound_assoc]
    rfl

namespace Emit

/-- A parameter of a part as one of the enclosing part. -/
def Param.under (outer : String) (q : Param) : Param :=
  { q with name := Naming.compound outer q.name }

/-- The column of a parameter, for a structure that is stored under a
name. -/
def Param.column (name : String) (q : Param) : Column :=
  ⟨Naming.compound name q.name, q.storage⟩

theorem Param.under_under (outer middle : String) (q : Param) :
    (q.under middle).under outer = q.under (Naming.compound outer middle) := by
  unfold under
  rw [Naming.compound_assoc]

theorem Param.column_under (name outer : String) (q : Param) :
    (q.under outer).column name = q.column (Naming.compound name outer) := by
  unfold column under
  rw [Naming.compound_assoc]

mutual

/-- A part has one parameter for each of its columns. -/
theorem length_paramsOf (outer : Option String) : (part : Part) →
    (paramsOf outer part).length = part.columnCount
  | .native _ _ => by rfl
  | .mapped _ _ => by rfl
  | .adapted head adapter => by
      unfold paramsOf Part.columnCount
      rw [List.length_map, adapter.length_columnsUnder]
  | .nested head type parts => by
      unfold paramsOf Part.columnCount
      exact length_paramsOfAll _ parts

theorem length_paramsOfAll (outer : Option String) : (parts : List Part) →
    (paramsOfAll outer parts).length = Part.columnCountAll parts
  | [] => by rfl
  | part :: rest => by
      unfold paramsOfAll Part.columnCountAll
      rw [List.length_append, length_paramsOf outer part, length_paramsOfAll outer rest]

end

mutual

/-- The parameters of a part under an enclosing one are those it has on its
own, with the name of the enclosing one before theirs. -/
theorem paramsOf_some (outer : String) : (part : Part) →
    paramsOf (some outer) part = (paramsOf none part).map (·.under outer)
  | .native _ _ => by rfl
  | .mapped _ _ => by rfl
  | .adapted head adapter => by
      unfold paramsOf
      show ((adapter.columnsUnder (Naming.compound outer head.storageName)).map _) = _
      rw [adapter.columnsUnder_compound, List.map_map, List.map_map]
      rfl
  | .nested head type parts => by
      unfold paramsOf
      show paramsOfAll (some (Naming.compound outer head.storageName)) parts =
        (paramsOfAll (some head.storageName) parts).map (·.under outer)
      rw [paramsOfAll_some _ parts, paramsOfAll_some head.storageName parts, List.map_map]
      apply List.map_congr_left
      intro q _
      exact (Param.under_under outer head.storageName q).symm

theorem paramsOfAll_some (outer : String) : (parts : List Part) →
    paramsOfAll (some outer) parts = (paramsOfAll none parts).map (·.under outer)
  | [] => by rfl
  | part :: rest => by
      unfold paramsOfAll
      rw [List.map_append, paramsOf_some outer part, paramsOfAll_some outer rest]

end

mutual

/-- The columns of a part are its parameters, under the name it is stored
by. -/
theorem columns_eq_params (name : String) : (part : Part) →
    Part.columns name part = (paramsOf none part).map (·.column name)
  | .native _ _ => by rfl
  | .mapped _ _ => by rfl
  | .adapted head adapter => by
      unfold Part.columns paramsOf
      rw [adapter.columnsUnder_compound, List.map_map]
      rfl
  | .nested head type parts => by
      unfold Part.columns paramsOf
      show Part.columnsAll (Naming.compound name head.storageName) parts =
        (paramsOfAll (some head.storageName) parts).map (·.column name)
      rw [columnsAll_eq_params _ parts, paramsOfAll_some, List.map_map]
      apply List.map_congr_left
      intro q _
      exact (Param.column_under name head.storageName q).symm

theorem columnsAll_eq_params (name : String) : (parts : List Part) →
    Part.columnsAll name parts = (paramsOfAll none parts).map (·.column name)
  | [] => by rfl
  | part :: rest => by
      unfold Part.columnsAll paramsOfAll
      rw [List.map_append, columns_eq_params name part, columnsAll_eq_params name rest]

end

theorem paramsOfAll_eq_flatMap (outer : Option String) (parts : List Part) :
    paramsOfAll outer parts = parts.flatMap (paramsOf outer) := by
  induction parts with
  | nil => rfl
  | cons part rest ih =>
      rw [List.flatMap_cons, ← ih]
      rfl

/-- Taken from the front one part after the other, the parameters that each
part is put together from are its own. -/
theorem partBuilds_paramsOfAll (outer : Option String) (parts : List Part) :
    partBuilds (paramsOfAll outer parts) parts =
      parts.map fun part => (part.head, partBuild (paramsOf outer part) part) := by
  induction parts with
  | nil => rfl
  | cons part rest ih =>
      have hlength := length_paramsOf outer part
      unfold partBuilds paramsOfAll
      rw [List.take_left' hlength, List.drop_left' hlength, ih]
      rfl

end Emit

/-- The columns of a structure that is stored under a name are its
parameters, each with the name before its own. -/
theorem Structure.columns_eq (s : Structure) (name : String) :
    s.columns name = (structureParams s).map (·.column name) :=
  columnsAll_eq_params name s.parts

/-- A structure has as many columns as are counted. -/
theorem Structure.length_columns (s : Structure) (name : String) :
    (s.columns name).length = s.columnCount := by
  rw [s.columns_eq, List.length_map]
  exact length_paramsOfAll none s.parts

end Rowsmith

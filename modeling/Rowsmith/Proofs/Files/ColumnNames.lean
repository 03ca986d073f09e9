/-
The names of the columns of an adapter.

A structure has no columns of its own. Its adapter lists names, and takes a
parameter for each; a field that nests the structure stores it in columns by
these names, with the name of the field before them. Names are put together
from the outside in, and there are many ways to put together one name: a part
`a_b` and the part `b` of a part `a` are both called `a_b`.

# Where overlaps are found

A table is checked for columns of one name, the columns of nested structures
among them. What is put before a name never makes two names one
(`Structure.nodup_columns_iff`), and the columns of an inner structure are
among those of an outer one (`Structure.PartOf.columns_sublist`), so the
check of a table reaches every structure that is comprised by one of its
fields. A structure that is only requested is comprised by none, and nothing
else looks at its names.

Main result: `column_names_distinct_iff`, and a requested structure that is
accepted with two columns of one name (`column_names_clash`).
-/
import Rowsmith.Proofs.Files.References
import Rowsmith.Proofs.Writing.Emission

namespace Rowsmith

open Emit

/-- The names of the columns of a structure, as its adapter lists them. -/
def Structure.columnNames (s : Structure) : List String := (structureParams s).map (·.name)

-- ================================================================ names

theorem Naming.compound_injective (outer : String) : Function.Injective (compound outer) := by
  intro a b h
  unfold compound at h
  exact String.append_right_inj _ |>.1 h

/-- Stored under a name, a structure has columns by the names of its
adapter, each with that name before it. -/
theorem Structure.map_name_columns (s : Structure) (name : String) :
    (s.columns name).map (·.name) = s.columnNames.map (Naming.compound name) := by
  rw [s.columns_eq, List.map_map]
  unfold columnNames
  rw [List.map_map]
  rfl

/-- No two columns of a structure have one name if this is so wherever it is
stored. -/
theorem Structure.nodup_columns_iff (s : Structure) (name : String) :
    ((s.columns name).map (·.name)).Nodup ↔ s.columnNames.Nodup := by
  rw [s.map_name_columns]
  exact List.nodup_map_iff (Naming.compound_injective name)

theorem Part.columnsAll_eq_flatMap (outer : String) (parts : List Part) :
    columnsAll outer parts = parts.flatMap (columns outer) := by
  induction parts with
  | nil => rfl
  | cons part rest ih =>
      rw [List.flatMap_cons, ← ih]
      rfl

/-- The columns of a part that is a structure are among those of the
structure it is a part of, under the longer name. -/
theorem Structure.PartOf.columns_sublist {inner outer : Structure} (h : inner.PartOf outer) :
    ∃ under, ∀ name, (inner.columns (Naming.compound name under)).Sublist (outer.columns name) := by
  obtain ⟨head, hpart⟩ := h
  refine ⟨head.storageName, fun name => ?_⟩
  unfold Structure.columns
  rw [Part.columnsAll_eq_flatMap name outer.parts, List.flatMap_def]
  exact List.sublist_flatten_of_mem (List.mem_map_of_mem (f := Part.columns name) hpart)

/-- If the columns of a structure have distinct names, so have those of all
that it comprises. -/
theorem Structure.Comprises.nodup {outer n : Structure} (h : outer.Comprises n)
    (houter : outer.columnNames.Nodup) : n.columnNames.Nodup := by
  induction h with
  | refl => exact houter
  | tail _ hpart ih =>
      obtain ⟨under, hsublist⟩ := hpart.columns_sublist
      have hnodup := (Structure.nodup_columns_iff _ "").2 ih
      exact (Structure.nodup_columns_iff _ _).1 (((hsublist "").map _).nodup hnodup)

-- =============================================================== tables

/-- The columns of a table of a resolved schema have distinct names. -/
theorem nodup_table_columns {room : Nat}
    {answers : List TypeExpr → TypeExpr → Except Failure (List FieldDecl)} {locator : Locator}
    {request : Request} {s : Schema} (h : resolveWithin room answers locator request = .ok s)
    {t : Table} (ht : t ∈ s.tables) : (t.columns.map (·.name)).Nodup := by
  obtain ⟨id, hid⟩ := List.mem_iff_getElem?.1 ht
  obtain ⟨model, -, hresolved⟩ := (resolveWithin_ok h).tables id t hid
  exact hresolved.checked.columns

/-- What a field of a table comprises has columns of distinct names, if the
table has. -/
theorem TableField.Comprises.nodup {t : Table} {f : TableField} {n : Structure}
    (h : f.Comprises n) (hlaid : f.Laid) (hf : f ∈ t.fields)
    (ht : (t.columns.map (·.name)).Nodup) : n.columnNames.Nodup := by
  obtain ⟨inner, hkind, hcomprised⟩ := h
  apply hcomprised.nodup
  unfold Laid at hlaid
  rw [hkind] at hlaid
  obtain ⟨name, hcolumns⟩ := hlaid
  have hsublist : f.columns.Sublist t.columns := by
    unfold Table.columns
    rw [List.flatMap_def]
    exact List.sublist_flatten_of_mem (List.mem_map_of_mem (f := (·.columns)) hf)
  rw [hcolumns] at hsublist
  exact (inner.nodup_columns_iff name).1 ((hsublist.map _).nodup ht)

-- ================================================================ units

namespace Emit

/-- A file is the unit of a structure: its adapter lists the names of the
columns, and builds a value from one parameter for each of them. -/
def SourceFile.ListsColumns (file : SourceFile) (n : Structure) : Prop :=
  ∃ uses type fields fill fresh,
    file.Holds uses (adapterLines n (createLines type (structureParams n) fields) fill fresh)

theorem listsColumns_of_adapterUnit {target : Target} {n : Structure} {file : SourceFile}
    (h : adapterUnit target n = .ok file) : file.ListsColumns n := by
  obtain ⟨type, _, create, _, fill, _, fresh, uses, body, -, hcreate, -, -, hfile, hbody⟩ :=
    adapterUnit_lines h
  obtain ⟨fields, -, hlines⟩ := createInstanceFunction_ok hcreate
  have hholds := unitFile_holds hfile
  rw [hbody, hlines] at hholds
  exact ⟨uses, type, fields.flatten, fill.lines, fresh.lines, hholds⟩

end Emit

-- ================================================================= main

/-- Which adapters of a resolved schema have columns of distinct names.
Every structure that is comprised by a field of a table does. So all of them
do exactly if those do that were requested, which are not looked at. The
names are those that are listed in the unit of the adapter, and that its
function takes as parameters. -/
theorem column_names_distinct_iff {room : Nat}
    {answers : List TypeExpr → TypeExpr → Except Failure (List FieldDecl)} {locator : Locator}
    {request : Request} {s : Schema} (h : resolveWithin room answers locator request = .ok s) :
    (∀ t ∈ s.tables, ∀ f ∈ t.fields, ∀ n, f.Comprises n →
      n ∈ s.structures ∧ n.columnNames.Nodup) ∧
    ((∀ n ∈ s.structures, n.columnNames.Nodup) ↔
      ∀ n ∈ s.structures, n.type ∈ request.structures → n.columnNames.Nodup) ∧
    ∀ n ∈ s.structures, ∀ target file, adapterUnit target n = .ok file → file.ListsColumns n := by
  have hnested : ∀ t ∈ s.tables, ∀ f ∈ t.fields, ∀ n, f.Comprises n → n.columnNames.Nodup := by
    intro t ht f hf n hn
    exact hn.nodup ((wellFormed_of_resolveWithin h).laid t ht f hf) hf (nodup_table_columns h ht)
  refine ⟨fun t ht f hf n hn => ⟨?_, hnested t ht f hf n hn⟩, ⟨fun hall n hn _ => hall n hn, ?_⟩,
    fun n _ target file hfile => listsColumns_of_adapterUnit hfile⟩
  · obtain ⟨inner, hkind, hcomprised⟩ := hn
    have hinner : s.InUse request inner := .field ht hf hkind
    exact (mem_structures_iff h n).2 (hinner.comprises hcomprised)
  · intro hrequested n hn
    have huse := (mem_structures_iff h n).1 hn
    -- what is in use is nested in a table, or comes with what was requested
    induction huse with
    | field ht hf hkind => exact hnested _ ht _ hf _ ⟨_, hkind, .refl⟩
    | requested hn htype => exact hrequested _ hn htype
    | part houter hpart ih =>
        have houter' := ih ((mem_structures_iff h _).2 houter)
        exact Structure.Comprises.nodup (.single hpart) houter'

/-- A structure with two parts, of which the second nests another
structure. -/
def clashCatalog (first second inner : String) : Catalog :=
  ⟨[⟨.named "Chest", [.plain first (.named "i32"), .plain second (.named "Lid")], false, none, none,
      [], none⟩,
    ⟨.named "Lid", [.plain inner (.named "i32")], false, none, none, [], none⟩], []⟩

/-- A schema with an adapter for the structure alone. -/
def resolveChest (first second inner : String) : Except Failure Schema :=
  resolve (clashCatalog first second inner).describer Registry.empty.locator ⟨[], [.named "Chest"]⟩

/-- The adapters of a chest with a lid have columns of distinct names. -/
theorem column_names_distinct_chest :
    ∃ s, resolveChest "size" "lid" "size" = .ok s ∧ s.structures.length = 2 ∧
      ∀ n ∈ s.structures, n.columnNames.Nodup := by
  have hfound : ((resolveChest "size" "lid" "size").toOption.filter fun s =>
      s.structures.length == 2 && s.structures.all fun n =>
        decide (n.type ∈ [TypeExpr.named "Chest"] → n.columnNames.Nodup)).isSome = true := by
    decide +kernel
  obtain ⟨s, hfound⟩ := Option.isSome_iff_exists.1 hfound
  obtain ⟨hs, hchecks⟩ := Option.filter_eq_some_iff.1 hfound
  obtain ⟨hlength, hrequested⟩ := Bool.and_eq_true_iff.1 hchecks
  have hs := Attempt.toOption_eq_some.1 hs
  refine ⟨s, hs, eq_of_beq hlength, (column_names_distinct_iff hs).2.1.2 fun n hn => ?_⟩
  exact of_decide_eq_true (List.all_eq_true.1 hrequested n hn)

/-- A chest is accepted whose two columns have one name, and its adapter is
written. -/
theorem column_names_clash :
    ∃ s n, resolveChest "a_b" "a" "b" = .ok s ∧ n ∈ s.structures ∧
      n.columnNames = ["a_b", "a_b"] ∧ ¬ n.columnNames.Nodup ∧
      ∃ file, adapterUnit .default n = .ok file ∧ file.ListsColumns n := by
  have hfound : ((resolveChest "a_b" "a" "b").toOption.bind fun s => s.structures.find? fun n =>
      n.columnNames == ["a_b", "a_b"] && s.texts.all Text.isSingleLine).isSome = true := by
    decide +kernel
  obtain ⟨n, hfound⟩ := Option.isSome_iff_exists.1 hfound
  obtain ⟨s, hs, hfind⟩ := Option.bind_eq_some_iff.1 hfound
  have hchecks := List.find?_some hfind
  obtain ⟨hnames, htexts⟩ := Bool.and_eq_true_iff.1 hchecks
  have hnames := eq_of_beq hnames
  have hs := Attempt.toOption_eq_some.1 hs
  have hn := List.mem_of_find?_eq_some hfind
  obtain ⟨file, hfile⟩ : ∃ file, adapterUnit .default n = .ok file :=
    adapterUnit_of_texts hs (by decide) (List.all_eq_true.1 htexts) (by decide) hn
  refine ⟨s, n, hs, hn, hnames, ?_, file, hfile, listsColumns_of_adapterUnit hfile⟩
  rw [hnames]
  decide

end Rowsmith

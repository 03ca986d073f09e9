/-
The names that generated code uses without declaring them.

The code of a unit speaks of `Result`, `Option` and `None` as they stand, and
takes the items of the runtime by declaration. Both are safe as long as nothing
else in the unit has their names. For the items this is seen to when a path
gets a short name; for the standard names it is not, and nothing is seen to for
the type that the unit defines. So it depends on the types that the unit refers
to and on its own name: they are listed in `tableReferred` and
`structureReferred`, and what the unit has in scope in the end is told by the
list alone (`Uses.Brought.leavesStandard_iff`).

The name of an adapter ends in `Adapter`, as does the path that leads to it, and
no standard name does. So adapters are never in the way.

# Main results

Which units leave the standard names alone (`standard_names_left_iff`), and a
model that takes `Result` from the unit of its table (`result_taken`).
-/
import Rowsmith.Proofs.Files.References
import Rowsmith.Proofs.Writing.Referred

namespace Rowsmith.Emit

open Text
open Writer (Brings)

-- ================================================================= names

/-- The standard names that generated code uses as they are. -/
def standardNames : List String := ["Result", "Option", "Vec", "String", "Some", "None", "Ok"]

theorem item_not_standard (item : RuntimeItem) : item.name ∉ standardNames := by
  cases item <;> decide

/-- What ends as an adapter does is neither a standard name nor an item. -/
theorem ends_in_adapter {name : String} {text : List Char} (hname : name.toList <:+ text)
    (hadapter : "Adapter".toList <:+ text) :
    name ∉ standardNames ∧ ∀ item : RuntimeItem, item.name ≠ name := by
  have hends := List.suffix_or_suffix_of_suffix hname hadapter
  constructor
  · intro hstandard
    have hnone : ∀ name ∈ standardNames,
        ¬(name.toList <:+ "Adapter".toList ∨ "Adapter".toList <:+ name.toList) := by
      decide
    exact hnone name hstandard hends
  · rintro item rfl
    cases item <;> exact absurd hends (by decide)

/-- The last segment of the path of an adapter is not a standard name. -/
theorem adapterPath_not_standard (type : TypeExpr) (target : Target) :
    TypeExpr.lastSegment ((Location.ofAdapter type).fullPath target) ∉ standardNames :=
  (ends_in_adapter (TypeExpr.lastSegment_suffix _) (adapterPath_suffix type target)).1

-- ================================================================= scope

/-- No name in a unit takes the place of a standard name, and the type that
the unit defines is none of the items it takes from the runtime. -/
structure Uses.LeavesStandard (u : Uses) : Prop where
  bound : ∀ name ∈ standardNames, name ∉ u.bound
  own : u.own ∉ standardNames
  items : u.own ∉ u.itemNames

/-- What a unit has in scope is told by its own name, the paths it refers to
and the items it takes. -/
theorem Uses.Brought.leavesStandard_iff {runtime own : String} {uses : Uses}
    {items : List RuntimeItem} {paths : List String}
    (h : (Uses.start runtime own).Brought uses items paths) (htidy : uses.Tidy) :
    uses.LeavesStandard ↔ own ∉ standardNames ∧
      (∀ path ∈ paths, TypeExpr.lastSegment path ∉ standardNames) ∧
      ∀ item ∈ items, item.name ≠ own := by
  have hown : uses.own = own := h.own
  have hbound : ∀ name ∈ standardNames,
      name ∈ uses.bound ↔ name ∈ paths.map TypeExpr.lastSegment ∧ name ≠ own := by
    intro name hname
    have hitem : ∀ item : RuntimeItem, name ≠ item.name := by
      rintro item rfl
      exact item_not_standard item hname
    have hnot : name ∉ uses.itemNames := by
      rw [Uses.mem_itemNames]
      rintro ⟨item, -, rfl⟩
      exact hitem item rfl
    rw [htidy.mem_bound, or_iff_right hnot, h.named, Uses.isReserved_eq_false, and_iff_left hitem]
    exact or_iff_right List.not_mem_nil
  have hitems : own ∉ uses.itemNames ↔ ∀ item ∈ items, item.name ≠ own := by
    rw [Uses.mem_itemNames]
    simp only [h.items, Uses.start, List.not_mem_nil, false_or, not_exists, not_and, ne_eq]
  constructor
  · intro hleaves
    have hfree : own ∉ standardNames := hown ▸ hleaves.own
    refine ⟨hfree, fun path hpath hname => ?_, hitems.1 (hown ▸ hleaves.items)⟩
    refine hleaves.bound _ hname ((hbound _ hname).2 ⟨List.mem_map_of_mem hpath, ?_⟩)
    rintro hsame
    exact hfree (hsame ▸ hname)
  · intro ⟨hfree, hpaths, hitem⟩
    refine ⟨fun name hname hmem => ?_, hown ▸ hfree, hown ▸ hitems.2 hitem⟩
    obtain ⟨path, hpath, rfl⟩ := List.mem_map.1 ((hbound name hname).1 hmem).1
    exact hpaths path hpath hname

-- ================================================================= units

/-- A file is a unit: its declarations are those of the names in use, and the
first thing after them is the type it defines. -/
structure SourceFile.IsUnit (file : SourceFile) (target : Target) (own : String) (uses : Uses) :
    Prop where
  tidy : uses.Tidy
  runtime_eq : uses.runtime = target.runtime
  own_eq : uses.own = own
  holds : ∃ rest, file.Holds uses (("pub struct " ++ own ++ ";") :: rest)

section

variable {s : Schema} {target : Target} {files : List SourceFile} {file : SourceFile} {t : Table}
  {x : Structure}

/-- What the unit of a table has in scope. -/
theorem tableUnit_brought (h : tableUnit s target t = .ok file) :
    ∃ uses, file.IsUnit target t.accessor uses ∧
      (Uses.start target.runtime t.accessor).Brought uses (tableTaken t)
        (tablePaths s target t) := by
  obtain ⟨uses, rest, _, _, _, -, -, htidy, hbrought, hholds, -⟩ := tableUnit_holds h
  exact ⟨uses, ⟨htidy, hbrought.runtime, hbrought.own, rest, hholds⟩, hbrought⟩

/-- What the unit of a structure has in scope. -/
theorem adapterUnit_brought (h : adapterUnit target x = .ok file) :
    ∃ uses, file.IsUnit target x.adapterName uses ∧
      (Uses.start target.runtime x.adapterName).Brought uses (structureTaken x)
        (structureReferred target x) := by
  obtain ⟨type, u, create, u₁, fill, u₂, fresh, uses, body, htype, hcreate, hfill, hfresh, hfile,
    hbody⟩ := adapterUnit_lines h
  obtain ⟨filled, hfilled, hfills⟩ := @fillValuesFunction_brings target x type
  -- the type and the parts are referred to when a structure is put together
  have hcreated : (Uses.start target.runtime x.adapterName).Brought u₁ []
      (structureReferred target x) :=
    ((Brings.path _).brought htype).trans ((createInstanceFunction_brings x type).brought hcreate)
  have hwritten : (Uses.start target.runtime x.adapterName).Brought u₂ (structureTaken x)
      (structureReferred target x) := by
    refine (hcreated.trans (hfills.brought hfill)).congr (fun _ => Iff.rfl) fun name => ?_
    exact firstEnding_append_of_subset (fun _ hpath => List.mem_cons_of_mem _ (hfilled hpath)) name
  have hbrought : (Uses.start target.runtime x.adapterName).Brought uses (structureTaken x)
      (structureReferred target x) := by
    refine (hwritten.trans ((newValuesFunction_brings type _).brought hfresh)).congr
      (fun item => ?_) fun name => ?_
    · rw [List.mem_append]
      exact or_iff_left_of_imp fun hitem => List.mem_singleton.1 hitem ▸ List.mem_cons_self
    · exact firstEnding_append_of_subset (List.nil_subset _) name
  have htidy := adapterFunctions_tidy htype hcreate hfill hfresh
  have hholds := unitFile_holds hfile
  rw [hbody] at hholds
  exact ⟨uses, ⟨htidy, hbrought.runtime, hbrought.own, _, hholds⟩, hbrought⟩

-- =========================================================== main result

/-- The standard names keep their meaning in the unit of a table exactly if
neither the accessor nor a type that the unit refers to has one of them; and
the accessor is none of the items taken from the runtime exactly if it is not
named like one that is taken for the fields. In the unit of a structure it is
enough that no type referred to has a standard name. Adapters are never in the
way, neither as the type that a unit defines nor as one that it refers to. -/
theorem standard_names_left_iff (hfiles : generate s target = .ok files) :
    (∀ t ∈ s.tables, ∃ file ∈ files, tableUnit s target t = .ok file ∧
      ∃ uses, file.IsUnit target t.accessor uses ∧
        (uses.LeavesStandard ↔ t.accessor ∉ standardNames ∧
          (∀ path ∈ tableReferred s target t, TypeExpr.lastSegment path ∉ standardNames) ∧
          ∀ item ∈ tableTaken t, item.name ≠ t.accessor)) ∧
    (∀ x ∈ s.structures, ∃ file ∈ files, adapterUnit target x = .ok file ∧
      ∃ uses, file.IsUnit target x.adapterName uses ∧
        (uses.LeavesStandard ↔
          ∀ path ∈ structureReferred target x, TypeExpr.lastSegment path ∉ standardNames)) ∧
    ∀ type : TypeExpr,
      TypeExpr.lastSegment ((Location.ofAdapter type).fullPath target) ∉ standardNames := by
  refine ⟨fun t ht => ?_, fun x hx => ?_, fun type => adapterPath_not_standard type target⟩
  · obtain ⟨file, hfile, hunit⟩ := tableUnit_mem hfiles ht
    obtain ⟨uses, hisUnit, hbrought⟩ := tableUnit_brought hunit
    have hleaves := hbrought.leavesStandard_iff hisUnit.tidy
    simp only [mem_tablePaths] at hleaves
    exact ⟨file, hfile, hunit, uses, hisUnit, hleaves⟩
  · obtain ⟨file, hfile, hunit⟩ := adapterUnit_mem hfiles hx
    obtain ⟨uses, hisUnit, hbrought⟩ := adapterUnit_brought hunit
    obtain ⟨hown, hitems⟩ : x.adapterName ∉ standardNames ∧
        ∀ item : RuntimeItem, item.name ≠ x.adapterName :=
      ends_in_adapter List.suffix_rfl (adapterName_suffix x.type.name)
    refine ⟨file, hfile, hunit, uses, hisUnit, ?_⟩
    rw [hbrought.leavesStandard_iff hisUnit.tidy, and_iff_right hown,
      and_iff_left fun item _ => hitems item]

end

/-- The units for a trip leave the standard names alone: neither the names of
its types nor those of their accessors and adapters are standard. -/
theorem standard_names_left_trip :
    ∃ s files, resolve tripCatalog.describer tripRegistry.locator tripRequest = .ok s ∧
      generate s .default = .ok files ∧
      (∀ t ∈ s.tables, ∃ file ∈ files, tableUnit s .default t = .ok file ∧
        ∃ uses, file.IsUnit .default t.accessor uses ∧ uses.LeavesStandard) ∧
      ∀ x ∈ s.structures, ∃ file ∈ files, adapterUnit .default x = .ok file ∧
        ∃ uses, file.IsUnit .default x.adapterName uses ∧ uses.LeavesStandard := by
  have hfound : ((resolve tripCatalog.describer tripRegistry.locator tripRequest).toOption.filter
      fun s => s.texts.all isSingleLine && decide (
        (∀ t ∈ s.tables, t.accessor ∉ standardNames ∧
          (∀ path ∈ tableReferred s .default t, TypeExpr.lastSegment path ∉ standardNames) ∧
          ∀ item ∈ tableTaken t, item.name ≠ t.accessor) ∧
        ∀ x ∈ s.structures, ∀ path ∈ structureReferred .default x,
          TypeExpr.lastSegment path ∉ standardNames)).isSome = true := by
    decide +kernel
  obtain ⟨s, hfound⟩ := Option.isSome_iff_exists.1 hfound
  obtain ⟨hs, hchecks⟩ := Option.filter_eq_some_iff.1 hfound
  have hresolved := Attempt.toOption_eq_some.1 hs
  obtain ⟨htexts, hnames⟩ := Bool.and_eq_true_iff.1 hchecks
  obtain ⟨htables, hstructures⟩ := of_decide_eq_true hnames
  obtain ⟨files, hfiles⟩ : ∃ files, generate s .default = .ok files :=
    generate_of_texts hresolved (List.all_eq_true.1 htexts) (by decide) (by decide)
  obtain ⟨haccessors, hadapters, -⟩ := standard_names_left_iff hfiles
  refine ⟨s, files, hresolved, hfiles, fun t ht => ?_, fun x hx => ?_⟩
  · obtain ⟨file, hfile, hunit, uses, hisUnit, hiff⟩ := haccessors t ht
    exact ⟨file, hfile, hunit, uses, hisUnit, hiff.2 (htables t ht)⟩
  · obtain ⟨file, hfile, hunit, uses, hisUnit, hiff⟩ := hadapters x hx
    exact ⟨file, hfile, hunit, uses, hisUnit, hiff.2 (hstructures x hx)⟩

-- ============================================================== `Result`

/-- A result of its own, and a line whose accessor is called `Row`. -/
def resultCatalog : Catalog where
  decls := [
    ⟨.named "model::Result", [.plain "id" (.named "i32")], true, none, none, [], none⟩,
    ⟨.named "model::Line", [.plain "id" (.named "i32")], true, none, some "Row", [], none⟩]
  unsupported := []

def resultRequest : Request := ⟨resultCatalog.models.map (·.toRequest), []⟩

/-- In the unit of its table the name `Result` stands for the model, though
the unit names what its functions return by it as well. And there is a unit
that defines a type `Row` and takes the item of this name. -/
theorem result_taken :
    ∃ s files, resolve resultCatalog.describer Registry.empty.locator resultRequest = .ok s ∧
      generate s .default = .ok files ∧
      (∃ t ∈ s.tables, ∃ file ∈ files, tableUnit s .default t = .ok file ∧
        ∃ uses, file.IsUnit .default t.accessor uses ∧ "Result" ∈ uses.bound ∧
          "use crate::model::Result;" ∈ uses.declarations) ∧
      ∃ t ∈ s.tables, ∃ file ∈ files, tableUnit s .default t = .ok file ∧
        ∃ uses, file.IsUnit .default "Row" uses ∧ "Row" ∈ uses.itemNames := by
  have hfound : ((resolve resultCatalog.describer Registry.empty.locator
      resultRequest).toOption.filter fun s => s.texts.all isSingleLine && decide (
        (∃ t ∈ s.tables, t.accessor = "ResultTable" ∧
          tablePaths s .default t = ["crate::model::Result"]) ∧
        ∃ t ∈ s.tables, t.accessor = "Row")).isSome = true := by
    decide +kernel
  obtain ⟨s, hfound⟩ := Option.isSome_iff_exists.1 hfound
  obtain ⟨hs, hchecks⟩ := Option.filter_eq_some_iff.1 hfound
  have hresolved := Attempt.toOption_eq_some.1 hs
  obtain ⟨htexts, htables⟩ := Bool.and_eq_true_iff.1 hchecks
  obtain ⟨⟨t, ht, haccessor, hreferred⟩, t', ht', hrow⟩ := of_decide_eq_true htables
  obtain ⟨files, hfiles⟩ : ∃ files, generate s .default = .ok files :=
    generate_of_texts hresolved (List.all_eq_true.1 htexts) (by decide) (by decide)
  refine ⟨s, files, hresolved, hfiles, ⟨t, ht, ?_⟩, t', ht', ?_⟩
  · obtain ⟨file, hfile, hunit⟩ := tableUnit_mem hfiles ht
    obtain ⟨uses, hisUnit, hbrought⟩ := tableUnit_brought hunit
    rw [hreferred, haccessor] at hbrought
    have hnamed : "Result" ∈ uses.names.map (·.1) := (hbrought.named "Result").2 (by decide)
    refine ⟨file, hfile, hunit, uses, hisUnit, hisUnit.tidy.mem_bound.2 (Or.inr hnamed), ?_⟩
    obtain ⟨⟨name, path⟩, hentry, -⟩ := List.mem_map.1 hnamed
    have hpath := Uses.mem_paths.2 ⟨name, hentry⟩
    obtain rfl : path = "crate::model::Result" :=
      List.mem_singleton.1 (hbrought.mem_of_start hisUnit.tidy hpath)
    exact List.mem_append_right _ (Uses.mem_pathLines.2 hpath)
  · obtain ⟨file, hfile, hunit⟩ := tableUnit_mem hfiles ht'
    obtain ⟨uses, hisUnit, hbrought⟩ := tableUnit_brought hunit
    rw [hrow] at hisUnit
    refine ⟨file, hfile, hunit, uses, hisUnit, Uses.mem_itemNames.2 ⟨.row, ?_, rfl⟩⟩
    exact (hbrought.items .row).2 (Or.inr (by simp [tableTaken]))

end Rowsmith.Emit

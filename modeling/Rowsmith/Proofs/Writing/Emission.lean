/-
Which schemas can be emitted. Resolving a request checks what can be stored
and how, but not that the names and paths it is given fit on lines. Code and
statements are written line by line, and everything that a schema names is
written. So a resolved schema can be emitted exactly if all its texts are
single lines (`can_emit_iff`): nothing but a line break keeps statements or
files from being written, and every line break does.

The texts of a schema are listed for tables and for structures
(`Table.texts`, `Structure.texts`). That they are enough for a unit is seen
from the plans it is written from; that they are all needed, from those
steps that every table and every structure goes through.
-/
import Rowsmith.Proofs.Files.Collisions
import Rowsmith.Proofs.Resolve.Accepted
import Rowsmith.Proofs.Writing.FittingUnits
import Rowsmith.Proofs.Writing.LaidOut

namespace Rowsmith

open Text

-- ================================================================ texts

/-- The texts that are written for how a field is stored. A structure that is
nested has texts of its own. -/
def FieldKind.texts : FieldKind → List String
  | .mapped conversion => conversion.texts
  | .adapted adapter => [adapter.path]
  | _ => []

/-- The texts that are written for a table. -/
def Table.texts (t : Table) : List String :=
  t.sqlTexts ++ [t.accessor, t.model.path] ++ t.fields.flatMap fun f => f.name :: f.kind.texts

/-- The texts that are written for how a part is stored. -/
def Part.texts : Part → List String
  | .mapped _ conversion => conversion.texts
  | .adapted _ adapter => [adapter.path]
  | _ => []

/-- The texts that are written for a nested structure. -/
def Structure.texts (x : Structure) : List String :=
  x.type.path :: ((Emit.structureParams x).map (·.name) ++
    x.parts.flatMap fun part => part.head.name :: part.texts)

/-- The texts that are written for a schema. -/
def Schema.texts (s : Schema) : List String :=
  s.tables.flatMap Table.texts ++ s.structures.flatMap Structure.texts

namespace Emit

variable {s : Schema} {target : Target} {t : Table} {f : TableField} {x : Structure} {part : Part}

-- ========================================================== statements

/-- The statements that a table declares are made for it. -/
theorem madeFor_of_tableStatements {entries : List (String × List Sql.Statement)}
    (h : tableStatements t = .ok entries) :
    ∀ entry ∈ entries, ∀ statement ∈ entry.2, Sql.Statement.MadeFor t statement := by
  obtain ⟨filter?, hfilter, h⟩ := Attempt.bind_eq_ok.1 h
  obtain ⟨byKey, hbyKey, h⟩ := Attempt.bind_eq_ok.1 h
  obtain rfl := Attempt.pure_eq_ok.1 h
  intro entry hentry statement hstatement
  simp only [List.mem_append, or_assoc] at hentry
  rcases hentry with hinsert | hupdate | hdelete | hall | hselect | hkey | hdrop
  · obtain ⟨mode, -, rfl⟩ := List.mem_map.1 hinsert
    obtain rfl := List.mem_singleton.1 hstatement
    exact .insert mode
  · cases hmade : Sql.Statement.updateNonKey? t with
    | none =>
        rw [hmade] at hupdate
        cases hupdate
    | some update =>
        rw [hmade] at hupdate
        cases filter? with
        | none => cases hupdate
        | some filter =>
            obtain rfl := List.mem_singleton.1 hupdate
            rcases List.mem_pair.1 hstatement with rfl | rfl
            · exact .updateNonKey hmade
            · exact .filterKey hfilter
  · cases filter? with
    | none => cases hdelete
    | some filter =>
        obtain rfl := List.mem_singleton.1 hdelete
        rcases List.mem_pair.1 hstatement with rfl | rfl
        · exact .delete
        · exact .filterKey hfilter
  · obtain rfl := List.mem_singleton.1 hall
    obtain rfl := List.mem_singleton.1 hstatement
    exact .delete
  · obtain ⟨policy, -, rfl⟩ := List.mem_map.1 hselect
    obtain rfl := List.mem_singleton.1 hstatement
    exact .select policy
  · obtain ⟨found, hfound, hsome⟩ := List.mem_filterMap.1 hkey
    obtain rfl : found = some entry := hsome
    obtain ⟨policy, -, hmade⟩ := Related.exists_mem (Attempt.mapM_eq_ok_iff.1 hbyKey).flip hfound
    obtain ⟨byKey?, hbyKey?, hmade⟩ := Attempt.bind_eq_ok.1 hmade
    obtain ⟨filter, rfl, rfl⟩ := Option.map_eq_some_iff.1 (Attempt.pure_eq_ok.1 hmade)
    rcases List.mem_pair.1 hstatement with rfl | rfl
    · exact .select policy
    · exact .filterKey hbyKey?
  · obtain rfl := List.mem_singleton.1 hdrop
    obtain rfl := List.mem_singleton.1 hstatement
    exact .dropTable true

/-- The clause that compares the primary key of a table is made without a
defect, if there is one to make. -/
theorem filterKey?_succeeds (h : s.WellFormed) (ht : t ∈ s.tables) (policy : FollowPolicy) :
    ∃ filter?, Sql.Statement.filterKey? t policy = .ok filter? := by
  cases hkey : t.primaryKey? with
  | none =>
      unfold Sql.Statement.filterKey?
      rw [hkey]
      exact ⟨none, rfl⟩
  | some key =>
      obtain ⟨-, ⟨c, hc⟩, -⟩ := (h.keys t ht).of_primaryKey? hkey
      exact ⟨_, Sql.filterKey?_eq hkey hc policy⟩

theorem tableStatements_succeeds (h : s.WellFormed) (ht : t ∈ s.tables) :
    ∃ entries, tableStatements t = .ok entries := by
  obtain ⟨filter?, hfilter⟩ := filterKey?_succeeds h ht .keys
  obtain ⟨byKey, hbyKey⟩ := @Attempt.mapM_succeeds _ _ _ (selectByKey? t) FollowPolicy.policies
    (by
      intro policy _
      obtain ⟨byKey?, hbyKey?⟩ := filterKey?_succeeds h ht policy
      exact ⟨_, Attempt.bind_eq_ok.2 ⟨byKey?, hbyKey?, rfl⟩⟩)
  exact ⟨_, Attempt.bind_eq_ok.2 ⟨filter?, hfilter, Attempt.bind_eq_ok.2 ⟨byKey, hbyKey, rfl⟩⟩⟩

-- ============================================================== plans

theorem exists_of_mem_fieldWrites {write : FieldWrite} {fields : List TableField} {start : Nat}
    (h : write ∈ fieldWrites start fields) : ∃ f ∈ fields, ∃ start, write = fieldWrite start f := by
  induction fields generalizing start with
  | nil => cases h
  | cons f fields ih =>
      rcases List.mem_cons.1 h with rfl | h
      · exact ⟨f, List.mem_cons_self, start, rfl⟩
      · obtain ⟨f', hf', hwrite⟩ := ih h
        exact ⟨f', List.mem_cons_of_mem _ hf', hwrite⟩

theorem exists_of_mem_partWrites {entry : PartHead × PartWrite} {parts : List Part} {start : Nat}
    (h : entry ∈ partWrites start parts) :
    ∃ part ∈ parts, ∃ start, entry = (part.head, partWrite start part) := by
  induction parts generalizing start with
  | nil => cases h
  | cons part parts ih =>
      rcases List.mem_cons.1 h with rfl | h
      · exact ⟨part, List.mem_cons_self, start, rfl⟩
      · obtain ⟨part', hpart', hwrite⟩ := ih h
        exact ⟨part', List.mem_cons_of_mem _ hpart', hwrite⟩

/-- The fields of an update are fields of the table. -/
theorem updateFields?_subset {fields : List TableField} (h : updateFields? t = some fields) :
    fields ⊆ t.fields := by
  unfold updateFields? at h
  split at h
  case h_1 key first rest hkey hothers =>
    obtain rfl := Option.some.inj h
    intro f hf
    rcases List.mem_append.1 hf with hf | hf
    · exact List.mem_of_mem_filter (hothers ▸ hf)
    · exact List.mem_singleton.1 hf ▸ List.mem_of_find?_eq_some hkey
  case h_2 => cases h

/-- A value is converted to be stored on a line if its place and the texts
of the conversion are on one. -/
theorem isSingleLine_convertedValue {m : Conversion} {place : String}
    (hm : AllSingle m.texts) (hplace : isSingleLine place = true) (optional : Bool) :
    isSingleLine (convertedValue m place optional) = true := by
  have hreference : ∀ reference, isSingleLine reference = true →
      isSingleLine (m.toStored reference) = true := by
    intro reference hreference
    unfold Conversion.toStored
    cases m with
    | provided path storage =>
        have hpath := (allSingle_cons.1 hm).1
        simp +decide [isSingleLine_append, hpath, hreference]
    | ordinal type variants =>
        dsimp only
        split
        case h_1 rest hrest =>
          have hrestLine : isSingleLine (String.ofList rest) = true :=
            isSingleLine_of_subset hreference (hrest ▸ List.subset_cons_self _ _)
          simp +decide [isSingleLine_append, hrestLine]
        case h_2 => simp +decide [isSingleLine_append, hreference]
  unfold convertedValue
  cases optional with
  | true =>
      have hvalue := hreference "value" (by decide)
      simp +decide [isSingleLine_append, hplace, hvalue]
  | false =>
      have hplaceReference := hreference ("&" ++ place) (by
        simp +decide [isSingleLine_append, hplace])
      simp +decide [isSingleLine_append, hplaceReference]

-- ============================================================== texts

theorem allSingle_tableTexts : AllSingle t.texts ↔ AllSingle t.sqlTexts ∧
    isSingleLine t.accessor = true ∧ isSingleLine t.model.path = true ∧
      ∀ f ∈ t.fields, isSingleLine f.name = true ∧ AllSingle f.kind.texts := by
  unfold Table.texts
  rw [allSingle_append, allSingle_append, allSingle_flatMap]
  simp only [allSingle_cons, allSingle_nil, and_true, and_assoc]

theorem allSingle_structureTexts : AllSingle x.texts ↔ isSingleLine x.type.path = true ∧
    (∀ param ∈ structureParams x, isSingleLine param.name = true) ∧
      ∀ part ∈ x.parts, isSingleLine part.head.name = true ∧ AllSingle part.texts := by
  unfold Structure.texts
  rw [allSingle_cons, allSingle_append, allSingle_map, allSingle_flatMap]
  simp only [allSingle_cons]

theorem allSingle_schemaTexts : AllSingle s.texts ↔
    (∀ t ∈ s.tables, AllSingle t.texts) ∧ ∀ x ∈ s.structures, AllSingle x.texts := by
  unfold Schema.texts
  rw [allSingle_append, allSingle_flatMap, allSingle_flatMap]

-- ============================================================== tables

/-- A field is read as its kind says. -/
def FieldRead.Of : FieldKind → FieldRead → Prop
  | .native, read => ∃ getter, read = .column getter
  | .mapped conversion, read => ∃ getter, read = .converted getter conversion
  | .adapted adapter, read =>
    ∃ getters optional, read = .assembled (.provided adapter.path) getters optional
  | .nested x, read => ∃ getters optional, read = .assembled (.generated x.type) getters optional
  | .reference r, read => ∃ plan : ReferenceRead, read = .reference plan ∧ plan.target = r

theorem fieldRead_of {id : TableId} {read : FieldRead} (h : fieldRead s id f = .ok read) :
    read.Of f.kind := by
  unfold fieldRead at h
  cases hkind : f.kind with
  | native =>
      rw [hkind] at h
      obtain ⟨c, -, h⟩ := Attempt.bind_eq_ok.1 h
      exact ⟨_, (Attempt.pure_eq_ok.1 h).symm⟩
  | mapped conversion =>
      rw [hkind] at h
      obtain ⟨c, -, h⟩ := Attempt.bind_eq_ok.1 h
      exact ⟨_, (Attempt.pure_eq_ok.1 h).symm⟩
  | adapted adapter =>
      rw [hkind] at h
      exact ⟨_, _, (Except.ok.inj h).symm⟩
  | nested x =>
      rw [hkind] at h
      exact ⟨_, _, (Except.ok.inj h).symm⟩
  | reference r =>
      rw [hkind] at h
      exact ⟨_, (Except.ok.inj h).symm, rfl⟩

/-- What a field is read by includes the texts of the field. -/
theorem texts_of_readFits (hf : f.Laid) {id : TableId} (h : ReadFits s target id f) :
    isSingleLine f.name = true ∧ AllSingle f.kind.texts := by
  obtain ⟨hname, hfits⟩ := h
  refine ⟨hname, ?_⟩
  obtain ⟨read, hread, -⟩ := fieldRead_ok s id hf
  have hof := fieldRead_of hread
  have hreadFits := hfits read hread
  cases hkind : f.kind with
  | mapped conversion =>
      rw [hkind] at hof
      obtain ⟨getter, rfl⟩ := hof
      exact hreadFits
  | adapted adapter =>
      rw [hkind] at hof
      obtain ⟨getters, optional, rfl⟩ := hof
      exact allSingle_cons.2 ⟨hreadFits, allSingle_nil⟩
  | _ => exact allSingle_nil

/-- The path of an adapter that is generated for a type fits on a line. -/
theorem isSingleLine_adapterPath {type : TypeExpr}
    (htarget : isSingleLine target.generatedModule = true)
    (htype : isSingleLine type.path = true) :
    isSingleLine ((Location.ofAdapter type).fullPath target) = true :=
  isSingleLine_fullPath htarget htype
    (Naming.isSingleLine_adapterName (TypeExpr.isSingleLine_name htype))

section

variable {room : Nat} {answers : List TypeExpr → TypeExpr → Except Failure (List FieldDecl)}
  {locator : Locator} {request : Request}
  (hs : resolveWithin room answers locator request = .ok s)

include hs

theorem defaults_of_field (ht : t ∈ s.tables) (hf : f ∈ t.fields) :
    f.defaults = [] ∨ f.defaults.length = f.columnCount := by
  obtain ⟨id, hid⟩ := List.mem_iff_getElem?.1 ht
  obtain ⟨request, -, haccepted⟩ := accepted_of_resolveWithin hs hid
  exact haccepted.defaults f hf

theorem conversion_filled_of_field (ht : t ∈ s.tables) (hf : f ∈ t.fields)
    {conversion : Conversion} (hkind : f.kind = .mapped conversion) : conversion.Filled := by
  obtain ⟨id, hid⟩ := List.mem_iff_getElem?.1 ht
  obtain ⟨request, -, hresolved⟩ := (resolveWithin_ok hs).tables id t hid
  obtain ⟨decl, hdecl⟩ := hresolved.field hf
  exact hdecl.conversion_filled hkind

theorem conversion_filled_of_part (hx : x ∈ s.structures) {head : PartHead}
    {conversion : Conversion} (hpart : .mapped head conversion ∈ x.parts) : conversion.Filled := by
  obtain ⟨before, after, hsplit⟩ := List.append_of_mem hx
  obtain ⟨_, decls, -, -, hparts⟩ := ((assembled_of_resolveWithin hs).madeOver hsplit).resolved
  obtain ⟨decl, -, hdecl⟩ := Related.exists_mem hparts.flip hpart
  exact Part.ResolvedFrom.conversion_filled hdecl

/-- Every field of a table can be read. -/
theorem exists_fieldRead (ht : t ∈ s.tables) (hf : f ∈ t.fields) :
    ∃ read, fieldRead s t.id f = .ok read ∧ read.Readable s := by
  have h := wellFormed_of_resolveWithin hs
  obtain ⟨read, hread, -⟩ := fieldRead_ok s t.id (h.laid t ht f hf)
  refine ⟨read, hread, ?_⟩
  have hof := fieldRead_of hread
  cases hkind : f.kind with
  | native =>
      rw [hkind] at hof
      obtain ⟨getter, rfl⟩ := hof
      trivial
  | mapped conversion =>
      rw [hkind] at hof
      obtain ⟨getter, rfl⟩ := hof
      exact conversion_filled_of_field hs ht hf hkind
  | adapted adapter =>
      rw [hkind] at hof
      obtain ⟨getters, optional, rfl⟩ := hof
      trivial
  | nested x =>
      rw [hkind] at hof
      obtain ⟨getters, optional, rfl⟩ := hof
      trivial
  | reference r =>
      rw [hkind] at hof
      obtain ⟨plan, rfl, rfl⟩ := hof
      obtain ⟨owner, -, howner, -⟩ :=
        h.references t ht f hf plan.target (TableField.reference?_eq_some_iff.2 hkind)
      exact ⟨owner, Schema.table_eq_ok.2 howner⟩

variable (hsingle : AllSingle s.texts) (htarget : isSingleLine target.generatedModule = true)

include hsingle htarget

theorem readFits_of_texts (ht : t ∈ s.tables) (hf : f ∈ t.fields) : ReadFits s target t.id f := by
  obtain ⟨htables, hstructures⟩ := allSingle_schemaTexts.1 hsingle
  obtain ⟨-, -, -, hfields⟩ := allSingle_tableTexts.1 (htables t ht)
  obtain ⟨hname, htexts⟩ := hfields f hf
  refine ⟨hname, fun read hread => ?_⟩
  have hof := fieldRead_of hread
  cases hkind : f.kind with
  | native =>
      rw [hkind] at hof
      obtain ⟨getter, rfl⟩ := hof
      trivial
  | mapped conversion =>
      rw [hkind] at hof htexts
      obtain ⟨getter, rfl⟩ := hof
      exact htexts
  | adapted adapter =>
      rw [hkind] at hof htexts
      obtain ⟨getters, optional, rfl⟩ := hof
      exact (allSingle_cons.1 htexts).1
  | nested x =>
      rw [hkind] at hof
      obtain ⟨getters, optional, rfl⟩ := hof
      have hx := hstructures x (nested_mem_structures hs ht hf hkind)
      exact isSingleLine_adapterPath htarget (allSingle_structureTexts.1 hx).1
  | reference r =>
      rw [hkind] at hof
      obtain ⟨plan, rfl, rfl⟩ := hof
      intro arm _ _
      unfold accessorPath
      split
      case isTrue => decide
      case isFalse =>
        cases howner : s.tables[plan.target.table]? with
        | none => exact (by decide : isSingleLine "" = true)
        | some owner =>
            obtain ⟨-, haccessor, hmodel, -⟩ :=
              allSingle_tableTexts.1 (htables owner (List.mem_of_getElem? howner))
            exact isSingleLine_fullPath htarget hmodel haccessor

theorem writeFits_of_texts (ht : t ∈ s.tables) {fields : List TableField}
    (hfields : fields ⊆ t.fields) : ∀ write ∈ fieldWrites 0 fields, write.Fits target := by
  obtain ⟨htables, hstructures⟩ := allSingle_schemaTexts.1 hsingle
  obtain ⟨-, -, -, hall⟩ := allSingle_tableTexts.1 (htables t ht)
  intro write hwrite
  obtain ⟨f, hf, start, rfl⟩ := exists_of_mem_fieldWrites hwrite
  obtain ⟨hname, htexts⟩ := hall f (hfields hf)
  unfold fieldWrite
  cases hkind : f.kind with
  | native => exact hname
  | reference r => exact hname
  | mapped conversion =>
      rw [hkind] at htexts
      exact isSingleLine_convertedValue htexts ((isSingleLine_paramPlace f.name).2 hname) f.nullable
  | adapted adapter =>
      rw [hkind] at htexts
      exact ⟨hname, (allSingle_cons.1 htexts).1⟩
  | nested x =>
      have hx := hstructures x (nested_mem_structures hs ht (hfields hf) hkind)
      exact ⟨hname, isSingleLine_adapterPath htarget (allSingle_structureTexts.1 hx).1⟩

-- ========================================================== structures

omit hsingle htarget in
theorem partBuild_filled (hx : x ∈ s.structures) :
    ∀ entry ∈ partBuilds (structureParams x) x.parts, entry.2.Filled := by
  intro entry hentry
  rw [structureParams, partBuilds_paramsOfAll] at hentry
  obtain ⟨part, hpart, rfl⟩ := List.mem_map.1 hentry
  cases part with
  | mapped head conversion => exact conversion_filled_of_part hs hx hpart
  | _ => trivial

/-- A part is built from parameters of its structure. -/
theorem buildsFit_of_texts (hx : x ∈ s.structures) : BuildsFit target x := by
  obtain ⟨-, hstructures⟩ := allSingle_schemaTexts.1 hsingle
  obtain ⟨-, hparams, hparts⟩ := allSingle_structureTexts.1 (hstructures x hx)
  refine ⟨hparams, fun entry hentry => ?_⟩
  rw [structureParams, partBuilds_paramsOfAll] at hentry
  obtain ⟨part, hpart, rfl⟩ := List.mem_map.1 hentry
  obtain ⟨hname, htexts⟩ := hparts part hpart
  have hown : ∀ param ∈ paramsOf none part, isSingleLine param.name = true := by
    intro param hparam
    refine hparams param ?_
    rw [structureParams, paramsOfAll_eq_flatMap]
    exact List.mem_flatMap.2 ⟨part, hpart, hparam⟩
  refine ⟨hname, ?_⟩
  cases part with
  | native head storage => exact hown _ (List.mem_singleton_self _)
  | mapped head conversion => exact ⟨hown _ (List.mem_singleton_self _), htexts⟩
  | adapted head adapter => exact ⟨(allSingle_cons.1 htexts).1, allSingle_map.2 hown⟩
  | nested head type parts =>
      have hinner : ⟨type, parts⟩ ∈ s.structures :=
        (library_of_resolveWithin hs).closed x hx _ hpart
      have htype := (allSingle_structureTexts.1 (hstructures _ hinner)).1
      exact ⟨isSingleLine_adapterPath htarget htype, allSingle_map.2 hown⟩

theorem partWrites_fit_of_texts (hx : x ∈ s.structures) :
    ∀ entry ∈ partWrites 0 x.parts, entry.2.Fits target entry.1 := by
  obtain ⟨-, hstructures⟩ := allSingle_schemaTexts.1 hsingle
  obtain ⟨-, -, hparts⟩ := allSingle_structureTexts.1 (hstructures x hx)
  intro entry hentry
  obtain ⟨part, hpart, start, rfl⟩ := exists_of_mem_partWrites hentry
  obtain ⟨hname, htexts⟩ := hparts part hpart
  cases part with
  | native head storage => exact hname
  | mapped head conversion =>
      refine isSingleLine_convertedValue htexts ?_ _
      exact (isSingleLine_paramPlace head.name).2 hname
  | adapted head adapter => exact ⟨(allSingle_cons.1 htexts).1, hname⟩
  | nested head type parts =>
      have hinner : ⟨type, parts⟩ ∈ s.structures :=
        (library_of_resolveWithin hs).closed x hx _ hpart
      have htype := (allSingle_structureTexts.1 (hstructures _ hinner)).1
      exact ⟨isSingleLine_adapterPath htarget htype, hname⟩

end

-- =============================================================== units

section

variable {room : Nat} {answers : List TypeExpr → TypeExpr → Except Failure (List FieldDecl)}
  {locator : Locator} {request : Request}
  (hs : resolveWithin room answers locator request = .ok s)
  (hruntime : isSingleLine target.runtime = true)

include hs hruntime

/-- The unit of a table of a resolved schema can be written exactly if what it
is made of can. -/
theorem tableUnit_isOk_iff_fits (ht : t ∈ s.tables) :
    ∃ entries, tableStatements t = .ok entries ∧
      ((∃ file, tableUnit s target t = .ok file) ↔ TableFits s target t entries) := by
  have h := wellFormed_of_resolveWithin hs
  obtain ⟨entries, hentries⟩ := tableStatements_succeeds h ht
  refine ⟨entries, hentries, tableUnit_isOk_iff hruntime (fun key hkey => ?_) hentries
    fun f hf => exists_fieldRead hs ht hf⟩
  obtain ⟨-, ⟨c, hc⟩, -⟩ := (h.keys t ht).of_primaryKey? hkey
  exact ⟨c, TableField.column_eq_ok.2 hc⟩

theorem texts_of_tableUnit (ht : t ∈ s.tables) (hunit : ∃ file, tableUnit s target t = .ok file) :
    AllSingle t.texts := by
  have h := wellFormed_of_resolveWithin hs
  obtain ⟨entries, -, hiff⟩ := tableUnit_isOk_iff_fits hs hruntime ht
  have hfits := hiff.1 hunit
  have hsql := Sql.sqlTexts_of_createTable h ht (fun f hf => defaults_of_field hs ht hf)
    (hfits.create .sqlite (by decide))
  exact allSingle_tableTexts.2 ⟨hsql, hfits.accessor, hfits.model,
    fun f hf => texts_of_readFits (h.laid t ht f hf) (hfits.fields.read f hf)⟩

theorem texts_of_adapterUnit (hx : x ∈ s.structures)
    (hunit : ∃ file, adapterUnit target x = .ok file) : AllSingle x.texts := by
  have hfits := (adapterUnit_isOk_iff hruntime (partBuild_filled hs hx)).1 hunit
  refine allSingle_structureTexts.2 ⟨hfits.type, hfits.built.params, fun part hpart => ?_⟩
  obtain ⟨hname, hbuild⟩ := hfits.built.parts (part.head, partBuild (paramsOf none part) part) (by
    rw [structureParams, partBuilds_paramsOfAll]
    exact List.mem_map_of_mem hpart)
  refine ⟨hname, ?_⟩
  cases part with
  | native head storage => exact allSingle_nil
  | mapped head conversion => exact hbuild.2
  | adapted head adapter => exact allSingle_cons.2 ⟨hbuild.1, allSingle_nil⟩
  | nested head type parts => exact allSingle_nil

variable (hsingle : AllSingle s.texts) (htarget : isSingleLine target.generatedModule = true)

include hsingle htarget

theorem tableUnit_of_texts (ht : t ∈ s.tables) : ∃ file, tableUnit s target t = .ok file := by
  have h := wellFormed_of_resolveWithin hs
  obtain ⟨htables, -⟩ := allSingle_schemaTexts.1 hsingle
  obtain ⟨-, haccessor, hmodel, -⟩ := allSingle_tableTexts.1 (htables t ht)
  have hsql : ∀ t ∈ s.tables, AllSingle t.sqlTexts :=
    fun t ht => (allSingle_tableTexts.1 (htables t ht)).1
  obtain ⟨entries, hentries, hiff⟩ := tableUnit_isOk_iff_fits hs hruntime ht
  refine hiff.2 ⟨hmodel, haccessor, fun entry hentry statement hstatement => ?_, fun flavor _ => ?_,
    ⟨fun f hf => readFits_of_texts hs hsingle htarget ht hf,
      writeFits_of_texts hs hsingle htarget ht (List.Subset.refl _),
      fun fields hfields =>
        writeFits_of_texts hs hsingle htarget ht (updateFields?_subset hfields)⟩⟩
  · have hmade := madeFor_of_tableStatements hentries entry hentry statement hstatement
    exact Sql.render_succeeds h hsql ht hmade .sqlite
  · exact Sql.render_succeeds h hsql ht (.createTable true true) flavor

theorem adapterUnit_of_texts (hx : x ∈ s.structures) :
    ∃ file, adapterUnit target x = .ok file := by
  obtain ⟨-, hstructures⟩ := allSingle_schemaTexts.1 hsingle
  have htype := (allSingle_structureTexts.1 (hstructures x hx)).1
  exact (adapterUnit_isOk_iff hruntime (partBuild_filled hs hx)).2 ⟨htype,
    Naming.isSingleLine_adapterName (TypeExpr.isSingleLine_name htype),
    buildsFit_of_texts hs hsingle htarget hx, partWrites_fit_of_texts hs hsingle htarget hx⟩

end

-- ============================================================= schemas

/-- Files can be generated exactly if every unit can be written. -/
theorem generate_isOk_iff : (∃ files, generate s target = .ok files) ↔
    (∀ t ∈ s.tables, ∃ file, tableUnit s target t = .ok file) ∧
      ∀ x ∈ s.structures, ∃ file, adapterUnit target x = .ok file := by
  constructor
  · intro ⟨files, h⟩
    obtain ⟨found, hfound, -⟩ := generate_eq_ok.1 h
    obtain ⟨accessors, adapters, haccessors, hadapters, -⟩ := units_eq_ok.1 hfound
    constructor
    · intro t ht
      obtain ⟨file, -, hfile⟩ := Related.exists_mem haccessors ht
      exact ⟨file, hfile⟩
    · intro x hx
      obtain ⟨file, -, hfile⟩ := Related.exists_mem hadapters hx
      exact ⟨file, hfile⟩
  · intro ⟨htables, hstructures⟩
    obtain ⟨accessors, haccessors⟩ := Related.exists_forall₂ htables
    obtain ⟨adapters, hadapters⟩ := Related.exists_forall₂ hstructures
    exact ⟨_, generate_eq_ok.2 ⟨_, units_eq_ok.2 ⟨accessors, adapters, haccessors, hadapters, rfl⟩,
      rfl⟩⟩

/-- The files of a resolved schema can be generated if its texts are single
lines. -/
theorem generate_of_texts {room : Nat}
    {answers : List TypeExpr → TypeExpr → Except Failure (List FieldDecl)} {locator : Locator}
    {request : Request} (hs : resolveWithin room answers locator request = .ok s)
    (hsingle : AllSingle s.texts) (htarget : isSingleLine target.generatedModule = true)
    (hruntime : isSingleLine target.runtime = true) : ∃ files, generate s target = .ok files :=
  generate_isOk_iff.2 ⟨fun _ ht => tableUnit_of_texts hs hruntime hsingle htarget ht,
    fun _ hx => adapterUnit_of_texts hs hruntime hsingle htarget hx⟩

/-- A resolved schema can be emitted exactly if its texts are single lines.
The clause that compares a primary key can be made for every table. The
statements made for the tables can be written, all of them and in every
flavor, if and only if the names of tables and columns and the default
expressions are single lines. And for every target whose paths are single
lines the files can be generated if and only if all texts of the schema are:
there is no other reason for which a schema that was resolved is not
emitted. -/
theorem can_emit_iff {room : Nat}
    {answers : List TypeExpr → TypeExpr → Except Failure (List FieldDecl)} {locator : Locator}
    {request : Request} (hs : resolveWithin room answers locator request = .ok s) :
    (∀ t ∈ s.tables, ∀ policy, ∃ filter?, Sql.Statement.filterKey? t policy = .ok filter?) ∧
    ((∀ t ∈ s.tables, ∀ statement, Sql.Statement.MadeFor t statement →
      ∀ flavor, ∃ b, Sql.render s flavor statement = .ok b) ↔
        ∀ t ∈ s.tables, AllSingle t.sqlTexts) ∧
    ∀ target : Target, isSingleLine target.generatedModule = true →
      isSingleLine target.runtime = true →
      ((∃ files, generate s target = .ok files) ↔ AllSingle s.texts) := by
  have h := wellFormed_of_resolveWithin hs
  refine ⟨fun t ht policy => filterKey?_succeeds h ht policy, ?_,
    fun target htarget hruntime => ?_⟩
  · exact Sql.statements_render_iff h fun t ht f hf => defaults_of_field hs ht hf
  · rw [generate_isOk_iff]
    constructor
    · intro ⟨htables, hstructures⟩
      exact allSingle_schemaTexts.2
        ⟨fun t ht => texts_of_tableUnit hs hruntime ht (htables t ht),
          fun x hx => texts_of_adapterUnit hs hruntime hx (hstructures x hx)⟩
    · intro hsingle
      exact ⟨fun t ht => tableUnit_of_texts hs hruntime hsingle htarget ht,
        fun x hx => adapterUnit_of_texts hs hruntime hsingle htarget hx⟩

/-- The texts of a trip, of the route it follows and of the point where the
route begins are single lines, and so all its statements can be written and
all its files generated. -/
theorem can_emit_trip :
    ∃ s, resolve tripCatalog.describer tripRegistry.locator tripRequest = .ok s ∧
      (∀ t ∈ s.tables, ∀ statement, Sql.Statement.MadeFor t statement →
        ∀ flavor, ∃ b, Sql.render s flavor statement = .ok b) ∧
      ∃ files, generate s .default = .ok files := by
  have hfound : ((resolve tripCatalog.describer tripRegistry.locator tripRequest).toOption.filter
      fun s => s.texts.all isSingleLine).isSome = true := by
    decide +kernel
  obtain ⟨s, hfound⟩ := Option.isSome_iff_exists.1 hfound
  obtain ⟨hs, htexts⟩ := Option.filter_eq_some_iff.1 hfound
  have hresolved := Attempt.toOption_eq_some.1 hs
  have hsingle : AllSingle s.texts := List.all_eq_true.1 htexts
  obtain ⟨-, hstatements, hfiles⟩ := can_emit_iff hresolved
  refine ⟨s, hresolved, hstatements.2 fun t ht => ?_,
    (hfiles .default (by decide) (by decide)).2 hsingle⟩
  exact (allSingle_tableTexts.1 ((allSingle_schemaTexts.1 hsingle).1 t ht)).1

/-- A user that is stored in a table whose name has a line break. -/
def userCatalog : Catalog where
  decls := [⟨.named "User", [.plain "id" (.named "i32")], true, some "us\ner", none, [], none⟩]
  unsupported := []

def userRequest : Request := ⟨userCatalog.models.map (·.toRequest), []⟩

/-- The user is resolved, but neither can its statements be written nor its
files generated. -/
theorem user_not_emitted :
    ∃ s t, resolve userCatalog.describer Registry.empty.locator userRequest = .ok s ∧
      t ∈ s.tables ∧ Sql.Statement.MadeFor t (.delete t.id) ∧
      Sql.render s .sqlite (.delete t.id) = .error (.lineBreak "DELETE FROM us\ner") ∧
      generate s .default = .error (.lineBreak "INSERT INTO us\ner (id)") := by
  have hfound : ((resolve userCatalog.describer Registry.empty.locator
      userRequest).toOption.bind fun s => s.tables.find? fun t => decide (
        Sql.render s .sqlite (.delete t.id) = .error (.lineBreak "DELETE FROM us\ner") ∧
        generate s .default = .error (.lineBreak "INSERT INTO us\ner (id)"))).isSome = true := by
    decide +kernel
  obtain ⟨t, hfound⟩ := Option.isSome_iff_exists.1 hfound
  obtain ⟨s, hs, hfind⟩ := Option.bind_eq_some_iff.1 hfound
  have hfails := List.find?_some hfind
  obtain ⟨hrender, hgenerate⟩ := of_decide_eq_true hfails
  exact ⟨s, t, Attempt.toOption_eq_some.1 hs, List.mem_of_find?_eq_some hfind, .delete, hrender,
    hgenerate⟩

end Emit

end Rowsmith

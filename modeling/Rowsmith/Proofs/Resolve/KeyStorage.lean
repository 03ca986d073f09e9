/-
How keys and the references to them are stored.

The storage of a reference is derived from the type of the key alone,
while the key itself is stored like any other field: a mapper that is
located for its type comes before the type. The two agree exactly if no
mapper is located for the type of the key, or one that stores it as it
would be stored anyway (`reference_storage_eq_iff`). Otherwise the
reference is declared and read differently from the key it refers to.
-/
import Rowsmith.Proofs.Reading.Plans
import Rowsmith.Proofs.Resolve.Integrity
import Rowsmith.Proofs.Resolve.Native

namespace Rowsmith

-- ================================================================= keys

/-- A field whose type is stored as it is has one column, stored by the
mapper located for the type if there is one, and otherwise natively. -/
theorem TableField.ResolvedFrom.native_storage {locator : Locator} {g : Grounds}
    {request : TableRequest} {decl : FieldDecl} {f : TableField}
    (h : f.ResolvedFrom locator g request decl) {storage : Storage}
    (hnative : Storage.ofNative? f.valueType = some storage) {c : Column} (hc : f.columns = [c]) :
    c.storage = match locator.mapper? f.valueType with
      | some mapper => mapper.storage
      | none => storage := by
  obtain ⟨v, x, hv, hx, hf⟩ := h
  have hvalue : f.valueType = decl.type.valueType := by rw [hf.eq]; rfl
  rw [hvalue] at hnative ⊢
  have hcolumns : (placeField decl x).1 = [c] := by rw [← hc, hf.eq]
  cases foundBy_of_verdict? hv with
  | reference wrapper =>
      rw [isReferenceType_of_ofNative? hnative] at wrapper
      cases wrapper
  | mapper found =>
      obtain rfl : x = _ := hx
      rw [found, ← List.singleton_inj.1 hcolumns]
      rfl
  | native free stored =>
      obtain rfl : x = _ := hx
      obtain rfl := Option.some.inj (hnative.symm.trans stored)
      rw [free, ← List.singleton_inj.1 hcolumns]
  | inline foreign => cases foreign.symm.trans hnative
  | adapter foreign => cases foreign.symm.trans hnative
  | nested foreign => cases foreign.symm.trans hnative

-- ================================================================ types

theorem Sql.Flavor.columnType_key_injective {a b : Storage}
    (h : ∀ flavor : Sql.Flavor, flavor.columnType true a = flavor.columnType true b) : a = b := by
  have hmysql := h .mysql
  revert hmysql
  cases a <;> cases b <;> decide

theorem Storage.getter_injective {a b : Storage} (h : a.getter = b.getter) : a = b := by
  revert h
  cases a <;> cases b <;> decide

-- =========================================================== references

/-- The values of a key are stored as their type is: no mapper is located
for it, or one that stores it so. -/
def Reference.KeyStoredAsTyped (r : Reference) (locator : Locator) : Prop :=
  ∀ mapper, locator.mapper? r.keyType = some mapper → mapper.storage = r.key

/-- A reference is always stored as the type of its key is. Whether the
key itself is too is decided by the mappers, and it decides in turn
whether the two columns are declared with the same type in every flavor,
and whether they are read by the same getter. -/
theorem reference_storage_eq_iff {room : Nat}
    {answers : List TypeExpr → TypeExpr → Except Failure (List FieldDecl)} {locator : Locator}
    {request : Request} {s : Schema} (h : resolveWithin room answers locator request = .ok s)
    {t : Table} (ht : t ∈ s.tables) {f : TableField} (hf : f ∈ t.fields) {r : Reference}
    (hr : f.reference? = some r) :
    ∃ source target key column, r.SoundIn s f source target key column ∧
      source.storage = r.key ∧
      (column.storage = r.key ↔ r.KeyStoredAsTyped locator) ∧
      ((∀ flavor : Sql.Flavor, flavor.declaredType f source = flavor.declaredType key column) ↔
        r.KeyStoredAsTyped locator) ∧
      ((∀ read keyRead, Emit.fieldRead s t.id f = .ok read →
        Emit.fieldRead s target.id key = .ok keyRead →
        read.getters.map (·.storage.getter) = keyRead.getters.map (·.storage.getter)) ↔
          r.KeyStoredAsTyped locator) := by
  have hresolved := resolveWithin_ok h
  have hwell := hresolved.wellFormed
  obtain ⟨source, target, key, column, hsound, -⟩ := (references_sound h ht).1 f hf r hr
  have htarget : target ∈ s.tables := List.mem_of_getElem? hsound.table
  obtain ⟨hkey, hprimary⟩ : key ∈ target.fields ∧ key.primaryKey = true := by
    have hmem : key ∈ target.fields.filter (·.primaryKey) := by
      rw [hsound.only]
      exact List.mem_singleton_self _
    exact List.mem_filter.1 hmem
  have hsource : source.storage = r.key := by
    obtain ⟨name, hcolumns⟩ := (hwell.laid t ht f hf).reference hr
    rw [hsound.columns] at hcolumns
    rw [List.singleton_inj.1 hcolumns]
  -- the key is a field of its table like any other
  have hcolumn : column.storage = match locator.mapper? r.keyType with
      | some mapper => mapper.storage
      | none => r.key := by
    obtain ⟨model, -, htable⟩ := hresolved.tables r.table target hsound.table
    obtain ⟨decl, hdecl⟩ := htable.field hkey
    have hnative : Storage.ofNative? key.valueType = some r.key := by
      rw [hsound.keyType]
      exact hsound.storage
    have := hdecl.native_storage hnative hsound.keyColumns
    rw [hsound.keyType] at this
    exact this
  have hstorage : column.storage = r.key ↔ r.KeyStoredAsTyped locator := by
    unfold Reference.KeyStoredAsTyped
    rw [hcolumn]
    cases locator.mapper? r.keyType with
    | none => simp
    | some mapper => simp
  refine ⟨source, target, key, column, hsound, hsource, hstorage, ?_, ?_⟩
  · -- declared types: both columns are declared as keys are
    rw [← hstorage]
    have hreference : f.isReference = true := by
      unfold TableField.isReference
      rw [hr]
      rfl
    unfold Sql.Flavor.declaredType
    rw [hprimary, hreference, Bool.or_true, Bool.true_or, hsource]
    constructor
    · intro htypes
      exact (Sql.Flavor.columnType_key_injective htypes).symm
    · intro hsame flavor
      rw [hsame]
  · -- getters: one for each column, by its storage
    rw [← hstorage]
    obtain ⟨read, hread, hcolumns⟩ := Emit.fieldRead_ok s t.id (hwell.laid t ht f hf)
    obtain ⟨keyRead, hkeyRead, hkeyColumns⟩ :=
      Emit.fieldRead_ok s target.id (hwell.laid target htarget key hkey)
    have hgetters : read.getters.map (·.storage.getter) = [r.key.getter] := by
      have := congrArg (List.map Storage.getter) hcolumns
      rw [hsound.columns, List.map_map, List.map_map] at this
      rw [← hsource]
      exact this.symm
    have hkeyGetters : keyRead.getters.map (·.storage.getter) = [column.storage.getter] := by
      have := congrArg (List.map Storage.getter) hkeyColumns
      rw [hsound.keyColumns, List.map_map, List.map_map] at this
      exact this.symm
    constructor
    · intro hsame
      have := hsame read keyRead hread hkeyRead
      rw [hgetters, hkeyGetters] at this
      exact (Storage.getter_injective (List.singleton_inj.1 this)).symm
    · intro hsame read' keyRead' hread' hkeyRead'
      obtain rfl := Except.ok.inj (hread.symm.trans hread')
      obtain rfl := Except.ok.inj (hkeyRead.symm.trans hkeyRead')
      rw [hgetters, hkeyGetters, hsame]

/-- Without mappers the keys of two models that refer to each other are
stored as the references to them are. -/
theorem reference_storage_mutual :
    ∃ (s : Schema) (f : TableField) (r : Reference) (column : Column),
      resolve mutualDescriber Registry.empty.locator mutualRequest = .ok s ∧
      f.reference? = some r ∧ s.keyColumn r = .ok column ∧ column.storage = r.key := by
  obtain ⟨s, t, f, r, hok, ht, hf, hr⟩ := mutual_resolves
  obtain ⟨source, target, key, column, hsound, -, hstorage, -⟩ :=
    reference_storage_eq_iff hok ht hf hr
  exact ⟨s, f, r, column, hok, hr, hsound.keyColumn,
    hstorage.2 fun mapper hmapper => by cases hmapper⟩

/-- A model with a key and one that refers to it. -/
def postCatalog : Catalog where
  decls := [
    ⟨.named "User", [.plain "id" (.named "i32")], true, none, none, [], none⟩,
    ⟨.named "Post", [.plain "user" (.generic "ForeignInt" [.named "User"])], true, none, none, [],
      none⟩]
  unsupported := []

/-- A mapper that stores the keys of all models as text. -/
def textKeys : Registry := Registry.empty.addMapper (.named "i32") ⟨"crate::AsText", .string⟩

/-- With it the key is stored as text, and the reference to it as an
integer. -/
theorem reference_storage_textKeys :
    ∃ (s : Schema) (f : TableField) (r : Reference) (column : Column),
      resolve postCatalog.describer textKeys.locator
        ⟨[.ofModel (.named "User"), .ofModel (.named "Post")], []⟩ = .ok s ∧
      f ∈ s.tables.flatMap (·.fields) ∧ f.reference? = some r ∧ s.keyColumn r = .ok column ∧
      f.columns.map (·.storage) = [.int] ∧ r.key = .int ∧ column.storage = .string := by
  have hfound : ((resolve postCatalog.describer textKeys.locator
      ⟨[.ofModel (.named "User"), .ofModel (.named "Post")], []⟩).toOption.bind
      fun s => (s.tables.flatMap (·.fields)).find? fun f => f.columns.map (·.storage) == [.int] &&
        f.reference?.any fun r => r.key == .int &&
          (s.keyColumn r).toOption.any (·.storage == .string)).isSome = true := by
    decide +kernel
  obtain ⟨f, hfound⟩ := Option.isSome_iff_exists.1 hfound
  obtain ⟨s, hs, hfind⟩ := Option.bind_eq_some_iff.1 hfound
  have hdiffer := List.find?_some hfind
  obtain ⟨hcolumns, hdiffer⟩ := Bool.and_eq_true_iff.1 hdiffer
  obtain ⟨r, hr, hdiffer⟩ := (Option.any_eq_true _ _).1 hdiffer
  obtain ⟨hkey, hcolumn⟩ := Bool.and_eq_true_iff.1 hdiffer
  obtain ⟨column, hcolumn, hstorage⟩ := (Option.any_eq_true _ _).1 hcolumn
  exact ⟨s, f, r, column, Attempt.toOption_eq_some.1 hs, List.mem_of_find?_eq_some hfind, hr,
    Attempt.toOption_eq_some.1 hcolumn, eq_of_beq hcolumns, eq_of_beq hkey, eq_of_beq hstorage⟩

end Rowsmith

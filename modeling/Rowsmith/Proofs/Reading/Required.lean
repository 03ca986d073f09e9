/-
Telling a value that is stored from one that is absent. A value of several
columns that may be absent is stored as nulls if it is, in all of its
columns, and this is what the generated code asks for when it reads. So
the two are told apart only if a value that is present has a column that
is never null.

That a structure has one is checked when an optional field nests it, by a
search through its parts that stops at the first one to be found
(`Structure.hasRequiredColumn`). Whether a column may be null is decided
elsewhere, by the parameters of the adapter that the structure is written
and read through. The two look at the parts differently: the search passes
over a part that is optional, whatever it is made of, while the
parameters of an adapter are never optional and those of a structure do
not depend on how the part was declared. They agree because only a part of
one column may be optional, and because an adapter has a column
(`Part.ResolvedFrom.isRequired_iff`). For a part that is again a structure
they agree if they do for that one, which was finished before; so the
induction is on the list of finished structures
(`Assembled.hasRequiredColumn_iff`).

Main result: `required_columns`.
-/
import Rowsmith.Proofs.Reading.Code
import Rowsmith.Proofs.Resolve.Accepted
import Rowsmith.Proofs.Sql.NotNull

namespace Rowsmith

open Emit

-- =========================================================== structures

/-- A column of an adapter is never null. -/
def HasRequired (params : List Param) : Prop := ∃ param ∈ params, param.optional = false

theorem hasRequired_append {params params' : List Param} :
    HasRequired (params ++ params') ↔ HasRequired params ∨ HasRequired params' := by
  unfold HasRequired
  simp only [List.mem_append, or_and_right, exists_or]

/-- Parameters none of which may be null include one that may not, if there
are any. -/
theorem hasRequired_map {α : Type} {l : List α} {param : α → Param}
    (hparam : ∀ a, (param a).optional = false) (hl : l ≠ []) : HasRequired (l.map param) := by
  obtain ⟨a, ha⟩ := List.exists_mem_of_ne_nil l hl
  exact ⟨_, List.mem_map_of_mem ha, hparam a⟩

section

variable {env : Setting} {nests : TypeExpr → Structure → Prop} {type : TypeExpr} {f : FieldDecl}
  {part : Part} {structures : List Structure}

/-- The search finds a part exactly if the part has a parameter that is
never null, if this is so for the structures that it may be. -/
theorem Part.ResolvedFrom.isRequired_iff (h : part.ResolvedFrom env.locator nests type f)
    (hnests : ∀ type s, nests type s →
      (s.hasRequiredColumn = true ↔ HasRequired (structureParams s))) :
    part.isRequired = true ↔ HasRequired (paramsOf none part) := by
  obtain ⟨v, x, hv, hx, hfor⟩ := h
  cases x with
  | reference r => cases hfor
  | native storage =>
      cases hfor
      simp [HasRequired, isRequired, paramsOf]
  | mapped conversion =>
      cases hfor
      simp [HasRequired, isRequired, paramsOf]
  | adapted adapter =>
      obtain ⟨hpresent, hfor⟩ := Option.ite_none_left_eq_some.1 hfor
      cases hfor
      have hcolumns := hx.adapted hv
      have hunder : adapter.columnsUnder (paramName none f.storageName) ≠ [] := by
        rw [← List.length_pos_iff, adapter.length_columnsUnder, List.length_pos_iff]
        exact hcolumns
      refine iff_of_true ?_ (hasRequired_map (fun _ => rfl) hunder)
      rw [isRequired, Bool.and_eq_true, decide_eq_true_eq]
      exact ⟨by simpa using hpresent, List.length_pos_iff.2 hcolumns⟩
  | nested s =>
      obtain ⟨hpresent, hfor⟩ := Option.ite_none_left_eq_some.1 hfor
      cases hfor
      have hparams : HasRequired (paramsOfAll (some (paramName none f.storageName)) s.parts) ↔
          HasRequired (structureParams s) := by
        -- another name for a parameter does not make it optional
        rw [paramsOfAll_some]
        unfold HasRequired structureParams
        simp only [List.mem_map, exists_exists_and_eq_and, Param.under]
      rw [isRequired, paramsOf, hparams, ← hnests _ s (hx.nested hv)]
      simp [hpresent, Structure.hasRequiredColumn]

/-- The search through the parts of a structure finds one exactly if one of
its parameters is never null. -/
theorem Assembled.hasRequiredColumn_iff (h : Assembled env structures) :
    ∀ s ∈ structures, s.hasRequiredColumn = true ↔ HasRequired (structureParams s) := by
  induction h with
  | nil => exact fun s hs => nomatch hs
  | @snoc done last _ made ih =>
      intro s hs
      rcases List.mem_append.1 hs with hs | hs
      · exact ih s hs
      obtain rfl := List.mem_singleton.1 hs
      obtain ⟨_, decls, -, -, hparts⟩ := made.resolved
      unfold Structure.hasRequiredColumn structureParams
      generalize s.parts = parts at hparts
      induction hparts with
      | nil => simp [HasRequired, Part.isRequiredAny, paramsOfAll]
      | cons hpart _ ihParts =>
          rw [Part.isRequiredAny, Bool.or_eq_true, ihParts, paramsOfAll, hasRequired_append,
            hpart.isRequired_iff fun _ s' hs' => ih s' hs'.2]

end

-- =============================================================== fields

section

variable {locator : Locator} {g : Grounds} {request : TableRequest} {decl : FieldDecl}
  {f : TableField}

/-- An optional field nests a structure only if the search finds a part. -/
theorem TableField.ResolvedFrom.hasRequiredColumn (h : f.ResolvedFrom locator g request decl)
    {n : Structure} (hkind : f.kind = .nested n) (hoptional : f.isOptional = true) :
    n.hasRequiredColumn = true := by
  obtain ⟨v, x, -, -, hf⟩ := h
  rw [hf.eq] at hoptional hkind
  have hx : x = .nested n := by
    cases x with
    | nested n' => exact congrArg Resolved.nested (FieldKind.nested.inj hkind)
    | _ => cases hkind
  have hrequired := hf.required n hx
  rw [show decl.type.isOption = true from hoptional] at hrequired
  exact hrequired

end

section

variable {room : Nat} {answers : List TypeExpr → TypeExpr → Except Failure (List FieldDecl)}
  {locator : Locator} {request : Request} {s : Schema} {t : Table} {f : TableField}

/-- The adapter of an optional field has a parameter that is never null. -/
theorem hasRequired_params (hs : resolveWithin room answers locator request = .ok s)
    (ht : t ∈ s.tables) (hf : f ∈ t.fields) (hoptional : f.isOptional = true)
    {name : AdapterName} {params : List Param} (hadapter : adapter? f = some (name, params)) :
    HasRequired params := by
  have hwell := wellFormed_of_resolveWithin hs
  unfold adapter? at hadapter
  cases hkind : f.kind with
  | adapted adapter =>
      rw [hkind] at hadapter
      cases hadapter
      -- the columns of the field are those of the adapter
      have hlaid := hwell.laid t ht f hf
      unfold TableField.Laid at hlaid
      rw [hkind] at hlaid
      obtain ⟨outer, hcolumns⟩ := hlaid
      have hfilled := hwell.filled t ht f hf hoptional
      rw [hcolumns, ← List.length_pos_iff, adapter.length_columnsUnder] at hfilled
      exact hasRequired_map (fun _ => rfl) (List.length_pos_iff.1 hfilled)
  | nested structured =>
      rw [hkind] at hadapter
      cases hadapter
      obtain ⟨id, hid⟩ := List.mem_iff_getElem?.1 ht
      obtain ⟨request, -, hresolved⟩ := (resolveWithin_ok hs).tables id t hid
      obtain ⟨decl, hdecl⟩ := hresolved.field hf
      have hmem := nested_mem_structures hs ht hf hkind
      exact ((assembled_of_resolveWithin hs).hasRequiredColumn_iff _ hmem).1
        (hdecl.hasRequiredColumn hkind hoptional)
  | _ =>
      rw [hkind] at hadapter
      cases hadapter

-- ============================================================== reading

/-- A value that may be absent is read through an adapter by getters, one
for each column of its field, and told from an absent one. -/
structure ToldApart (s : Schema) (f : TableField) (name : AdapterName) (getters : List Getter) :
    Prop where
  length : getters.length = f.columnCount
  -- The code asks of every column whether it is null.
  tested : ∀ adapter code, assembledCode adapter getters true = .ok code → ∃ rest,
    code.lines = ("if " ++ String.intercalate " && " ((List.range f.columnCount).map nullTest) ++
      " \x7b") :: rest
  -- If all of them are, one is that is read by a getter that takes no null.
  absent : ∃ (i : Nat) (getter : Getter), getters[i]? = some getter ∧ getter.optional = false ∧
    ∀ row start, (FieldRead.assembled name getters true).isAbsent row start = true →
      row.null (start + i) = true
  -- A value that was written is present, wherever its columns are read from,
  -- if no column is null that it put a value into which cannot be.
  present : ∀ existing, (∀ a, s.Uses a → existing.Exact a) → ∀ first puts,
    Fills s existing first puts name → ∀ row start,
      (∀ i, (false, first + i) ∈ puts → row.null (start + i) = false) →
      (FieldRead.assembled name getters true).isAbsent row start = false

theorem isAbsent_assembled {name : AdapterName} {getters : List Getter} {row : Row}
    {start : Nat} (h : (FieldRead.assembled name getters true).isAbsent row start = true) {i : Nat}
    (hi : i < getters.length) : row.null (start + i) = true := by
  have hall : ∀ i ∈ List.range getters.length, row.null (start + i) = true :=
    List.all_eq_true.1 h
  exact hall i (List.mem_range.2 hi)

/-- An optional field that is stored through an adapter is told from an
absent one. -/
theorem toldApart (hs : resolveWithin room answers locator request = .ok s) (ht : t ∈ s.tables)
    (hf : f ∈ t.fields) (hoptional : f.isOptional = true) {name : AdapterName}
    {params : List Param} (hadapter : adapter? f = some (name, params)) :
    ToldApart s f name (params.map Param.getter) := by
  have hlength := length_params ((wellFormed_of_resolveWithin hs).laid t ht f hf) hadapter
  obtain ⟨param, hparam, hrequired⟩ := hasRequired_params hs ht hf hoptional hadapter
  obtain ⟨i, hi⟩ := List.mem_iff_getElem?.1 hparam
  have hgetter : (params.map Param.getter)[i]? = some param.getter := by
    rw [List.getElem?_map, hi]
    rfl
  have hlt := (List.getElem?_eq_some_iff.1 hgetter).1
  constructor
  case length => exact (List.length_map _).trans hlength
  case tested =>
    intro adapter code hcode
    rw [assembledCode_lines hcode]
    unfold assembledLines
    rw [List.length_map, hlength]
    exact ⟨_, rfl⟩
  case absent =>
    exact ⟨i, _, hgetter, hrequired, fun row start habsent => isAbsent_assembled habsent hlt⟩
  case present =>
    intro existing hexact first puts hputs row start hrow
    obtain ⟨-, hfills⟩ := fills_ok (wired_of_resolveWithin hs hexact) ht hf hadapter first
    have hput : (false, first + i) ∈ puts := by
      rw [hfills puts hputs, List.mk_add_mem_zipIdx_iff_getElem?, optionals, List.getElem?_map, hi]
      exact congrArg some hrequired
    by_contra habsent
    have hnull := isAbsent_assembled (Bool.not_eq_false _ ▸ habsent) hlt
    exact Bool.noConfusion (hnull.symm.trans (hrow i hput))

end

/-- An optional value of several columns is never mistaken for an absent
one. Of every structure of a resolved schema the search through its parts
finds one exactly if some parameter of its adapter may not be null. And
every field of every table that is optional and stored through a nested
structure or an existing adapter is read through an adapter, by getters of
which one takes no null; it is told from an absent one. -/
theorem required_columns {room : Nat}
    {answers : List TypeExpr → TypeExpr → Except Failure (List FieldDecl)} {locator : Locator}
    {request : Request} {s : Schema}
    (hs : resolveWithin room answers locator request = .ok s) :
    (∀ n ∈ s.structures, n.hasRequiredColumn = true ↔
      ∃ param ∈ structureParams n, param.optional = false) ∧
    ∀ t ∈ s.tables, ∀ f ∈ t.fields, f.isOptional = true →
      ((∃ n, f.kind = .nested n) ∨ ∃ a, f.kind = .adapted a) →
      ∃ name getters, fieldRead s t.id f = .ok (.assembled name getters true) ∧
        ToldApart s f name getters := by
  refine ⟨(assembled_of_resolveWithin hs).hasRequiredColumn_iff, ?_⟩
  intro t ht f hf hoptional hkind
  unfold fieldRead
  rcases hkind with ⟨n, hkind⟩ | ⟨a, hkind⟩
  · have hadapter : adapter? f = some (.generated n.type, structureParams n) := by
      unfold adapter?
      rw [hkind]
    rw [hkind, hoptional]
    exact ⟨_, _, rfl, toldApart hs ht hf hoptional hadapter⟩
  · have hadapter : adapter? f = some (.provided a.path, providedParams a) := by
      unfold adapter?
      rw [hkind]
    rw [hkind, hoptional]
    exact ⟨_, _, rfl, toldApart hs ht hf hoptional hadapter⟩

/-- Parcels that may be on their way to a street, which may have a number
and is in a town. -/
def parcelCatalog : Catalog where
  decls := [
    ⟨.named "Town", [.plain "zip" (.generic "Option" [.named "i32"]),
      .plain "name" (.named "String")], false, none, none, [], none⟩,
    ⟨.named "Street", [.plain "number" (.generic "Option" [.named "i32"]),
      .plain "town" (.named "Town")], false, none, none, [], none⟩,
    ⟨.named "Parcel", [.plain "id" (.named "i32"),
      .plain "to" (.generic "Option" [.named "Street"])], true, none, none, [], none⟩]
  unsupported := []

def parcelRequest : Request := ⟨[.ofModel (.named "Parcel")], []⟩

/-- The street of a parcel is present if the name of its town is there,
which is the third of its columns. -/
theorem required_columns_parcel :
    ∃ s t f n name getters, resolve parcelCatalog.describer Registry.empty.locator parcelRequest =
        .ok s ∧ t ∈ s.tables ∧ f ∈ t.fields ∧ f.kind = .nested n ∧ n ∈ s.structures ∧
      n.hasRequiredColumn = true ∧ fieldRead s t.id f = .ok (.assembled name getters true) ∧
      getters = [⟨.int, true⟩, ⟨.int, true⟩, ⟨.string, false⟩] ∧ ToldApart s f name getters := by
  have hfound : ((resolve parcelCatalog.describer Registry.empty.locator
      parcelRequest).toOption.bind fun s => s.tables.find? fun t => t.fields.any fun f =>
        f.isOptional && (adapter? f).any fun adapter => adapter.1 == .generated (.named "Street") &&
          adapter.2.map Param.getter == [⟨.int, true⟩, ⟨.int, true⟩, ⟨.string, false⟩]).isSome =
            true := by
    decide +kernel
  obtain ⟨t, hfound⟩ := Option.isSome_iff_exists.1 hfound
  obtain ⟨s, hs, hfind⟩ := Option.bind_eq_some_iff.1 hfound
  have ht := List.mem_of_find?_eq_some hfind
  have hparcel := List.find?_some hfind
  obtain ⟨f, hf, hfield⟩ := List.any_eq_true.1 hparcel
  obtain ⟨hoptional, hnested⟩ := Bool.and_eq_true_iff.1 hfield
  have hresolved := Attempt.toOption_eq_some.1 hs
  obtain ⟨hsearch, htold⟩ := required_columns hresolved
  unfold adapter? at hnested
  cases hkind : f.kind with
  | nested n =>
      rw [hkind] at hnested
      have hgetters := eq_of_beq (Bool.and_eq_true_iff.1 hnested).2
      obtain ⟨name, getters, hread, happart⟩ := htold t ht f hf hoptional (Or.inl ⟨n, hkind⟩)
      have hmem := nested_mem_structures hresolved ht hf hkind
      have hsame : getters = (structureParams n).map Param.getter := by
        unfold fieldRead at hread
        rw [hkind] at hread
        exact (FieldRead.assembled.inj (Except.ok.inj hread)).2.1.symm
      have hrequired : n.hasRequiredColumn = true := by
        refine (hsearch n hmem).2 ?_
        obtain ⟨i, getter, hgetter, hnever, -⟩ := happart.absent
        rw [hsame, List.getElem?_map, Option.map_eq_some_iff] at hgetter
        obtain ⟨param, hparam, rfl⟩ := hgetter
        exact ⟨param, List.mem_of_getElem? hparam, hnever⟩
      exact ⟨s, t, f, n, name, getters, hresolved, ht, hf, hkind, hmem, hrequired, hread,
        hsame.trans hgetters, happart⟩
  | _ =>
      rw [hkind] at hnested
      cases hnested

end Rowsmith

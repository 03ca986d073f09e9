/-
Writing a model as a program. The adapter that is generated for a nested
structure writes a value into the slots of an array: the values of single
columns itself, and the other parts by calling their adapters. Here the
plans from which these functions are written are given their meaning.

# What is modelled

`Puts` says which values the function of a structure puts into which
slots when it is called with a first slot. A call of the function of
another structure is a run of the plan of that structure, which is found
by its type. What existing adapters do is not known; it is given
(`ExistingAdapters`), and where it matters they are taken to write
exactly the columns they declare (`ExistingAdapters.Exact`).

Values are not followed. Of a value it is only said whether it is that of
an optional field, and so may be null.

Main result: a structure is written in step with its parameters
(`Puts.mem_iff`). Into each slot goes a value that may be null exactly if
the parameter for this column may be.
-/
import Rowsmith.Proofs.Resolve.Structures
import Rowsmith.Proofs.Schema.Parts

namespace Rowsmith

open Emit

-- ============================================================= adapters

/-- The existing adapters that a schema makes use of. -/
def Schema.Uses (s : Schema) (a : ProvidedAdapter) : Prop :=
  (∃ t ∈ s.tables, ∃ f ∈ t.fields, f.kind = .adapted a) ∨
    ∃ structured ∈ s.structures, ∃ head, .adapted head a ∈ structured.parts

/-- Every existing adapter that a schema makes use of passes a check. -/
def Schema.usesOnly (s : Schema) (check : ProvidedAdapter → Bool) : Bool :=
  (s.tables.all fun t => t.fields.all fun f => match f.kind with
    | .adapted a => check a
    | _ => true) &&
  s.structures.all fun structured => structured.parts.all fun part => match part with
    | .adapted _ a => check a
    | _ => true

theorem Schema.check_of_usesOnly {s : Schema} {check : ProvidedAdapter → Bool}
    (h : s.usesOnly check = true) {a : ProvidedAdapter} (ha : s.Uses a) : check a = true := by
  obtain ⟨htables, hstructures⟩ := Bool.and_eq_true_iff.1 h
  rcases ha with ⟨t, ht, f, hf, hkind⟩ | ⟨structured, hs, head, hpart⟩
  · have hfield := List.all_eq_true.1 (List.all_eq_true.1 htables t ht) f hf
    rw [hkind] at hfield
    exact hfield
  · exact List.all_eq_true.1 (List.all_eq_true.1 hstructures structured hs) _ hpart

namespace Emit

/-- What existing adapters do: the slots that the one at a path writes
into when it is called with a first slot. -/
abbrev ExistingAdapters := String → Nat → List Nat

/-- An adapter writes into one slot for each column it declares, from the
first one on, and into no other. -/
def ExistingAdapters.Exact (existing : ExistingAdapters) (a : ProvidedAdapter) : Prop :=
  ∀ start i, i ∈ existing a.path start ↔ start ≤ i ∧ i < start + a.columns.length

-- ============================================================= programs

/-- A value that is put into a slot; it may be null if it is that of an
optional field. -/
abbrev Put := Bool × Nat

/-- The values that the parts of a structure put into the slots of an
array, when the structure is written from a slot on. -/
inductive Puts (s : Schema) (existing : ExistingAdapters) :
    List (PartHead × PartWrite) → Nat → List Put → Prop
  -- There is nothing left to write.
  | done {start : Nat} : Puts s existing [] start []
  -- A value goes into its slot.
  | stored {head : PartHead} {slot start : Nat} {rest : List (PartHead × PartWrite)}
      {puts : List Put} (next : Puts s existing rest start puts) :
      Puts s existing ((head, .stored slot) :: rest) start
        ((head.type.isOption, start + slot) :: puts)
  -- So does a converted value.
  | converted {head : PartHead} {slot start : Nat} {conversion : Conversion} {optional : Bool}
      {rest : List (PartHead × PartWrite)} {puts : List Put}
      (next : Puts s existing rest start puts) :
      Puts s existing ((head, .converted slot conversion optional) :: rest) start
        ((optional, start + slot) :: puts)
  -- An existing adapter is called. None of its columns may be null.
  | existing {head : PartHead} {slot start : Nat} {path : String}
      {rest : List (PartHead × PartWrite)} {puts : List Put}
      (next : Puts s existing rest start puts) :
      Puts s existing ((head, .filled slot (.provided path)) :: rest) start
        ((existing path (start + slot)).map (false, ·) ++ puts)
  -- The adapter of a structure is called.
  | generated {head : PartHead} {slot start : Nat} {structured : Structure}
      {rest : List (PartHead × PartWrite)} {inner puts : List Put}
      (listed : structured ∈ s.structures)
      (call : Puts s existing (partWrites 0 structured.parts) (start + slot) inner)
      (next : Puts s existing rest start puts) :
      Puts s existing ((head, .filled slot (.generated structured.type)) :: rest) start
        (inner ++ puts)

/-- The values that an adapter puts into slots when it is called with a
first slot. -/
def Fills (s : Schema) (existing : ExistingAdapters) (start : Nat) (puts : List Put) :
    AdapterName → Prop
  | .provided path => puts = (existing path start).map (false, ·)
  | .generated type => ∃ structured ∈ s.structures, structured.type = type ∧
      Puts s existing (partWrites 0 structured.parts) start puts

-- ================================================================ parts

/-- All that is needed to write a part is known: the structure it may be
is listed, and the adapter it may be stored through is in use. -/
def Known (s : Schema) (part : Part) : Prop :=
  part.ListedIn s.structures ∧ ∀ head a, part = .adapted head a → s.Uses a

theorem known_of_mem {s : Schema} (h : Library s.structures) {structured : Structure}
    (hs : structured ∈ s.structures) : ∀ part ∈ structured.parts, Known s part := by
  refine fun part hpart => ⟨h.closed structured hs part hpart, fun head a ha => ?_⟩
  exact Or.inr ⟨structured, hs, head, ha ▸ hpart⟩

/-- Which parameters may be null. -/
def optionals (params : List Param) : List Bool := params.map (·.optional)

/-- The parameters of a part come before those of the other parts. -/
theorem optionals_cons (outer : Option String) (part : Part) (rest : List Part)
    (start base : Nat) :
    (optionals (paramsOfAll outer (part :: rest))).zipIdx (start + base) =
      (optionals (paramsOf outer part)).zipIdx (start + base) ++
        (optionals (paramsOfAll outer rest)).zipIdx (start + (base + part.columnCount)) := by
  rw [paramsOfAll, optionals, List.map_append, List.zipIdx_append, List.length_map,
    length_paramsOf, Nat.add_assoc]
  rfl

/-- None of the parameters of an existing adapter may be null. -/
theorem optionals_provided (a : ProvidedAdapter) :
    optionals (providedParams a) = List.replicate a.columns.length false := by
  rw [optionals, providedParams, List.map_map]
  exact List.map_const' ..

theorem optionals_adapted (outer : Option String) (head : PartHead) (a : ProvidedAdapter) :
    optionals (paramsOf outer (.adapted head a)) = List.replicate a.columns.length false := by
  rw [paramsOf, optionals, List.map_map,
    ← a.length_columnsUnder (paramName outer head.storageName)]
  exact List.map_const' ..

/-- An adapter that writes exactly its columns writes in step with
them. -/
theorem ExistingAdapters.Exact.mem_iff {existing : ExistingAdapters} {a : ProvidedAdapter}
    (h : existing.Exact a) (start : Nat) (put : Put) :
    put ∈ (existing a.path start).map (false, ·) ↔
      put ∈ (List.replicate a.columns.length false).zipIdx start := by
  obtain ⟨optional, i⟩ := put
  rw [List.mk_mem_zipIdx_iff_le_and_getElem?_sub, List.getElem?_replicate, List.mem_map]
  constructor
  · rintro ⟨i', hi', hput⟩
    obtain ⟨rfl, rfl⟩ := Prod.mk.inj hput
    obtain ⟨hstart, hstop⟩ := (h start i').1 hi'
    exact ⟨hstart, if_pos (by omega)⟩
  · rintro ⟨hstart, hput⟩
    split at hput
    case isTrue hstop =>
      obtain rfl := Option.some.inj hput
      exact ⟨i, (h start i).2 ⟨hstart, by omega⟩, rfl⟩
    case isFalse => cases hput

-- ============================================================= programs

section

variable {s : Schema} {existing : ExistingAdapters} {writes : List (PartHead × PartWrite)}
  {start : Nat} {puts : List Put}

/-- What is written first is the first part. -/
theorem cons_eq_partWrites {write : PartHead × PartWrite} {parts : List Part} {base : Nat}
    (h : write :: writes = partWrites base parts) : ∃ part rest, parts = part :: rest ∧
      write = (part.head, partWrite base part) ∧
      writes = partWrites (base + part.columnCount) rest := by
  cases parts with
  | nil => cases h
  | cons part rest =>
      obtain ⟨hwrite, hrest⟩ := List.cons.inj h
      exact ⟨part, rest, rfl, hwrite, hrest⟩

/-- Parts are written in step with their parameters: into each slot goes
a value that may be null exactly if the parameter for the column may
be. -/
theorem Puts.mem_iff (h : Puts s existing writes start puts) (hlibrary : Library s.structures)
    (hexact : ∀ a, s.Uses a → existing.Exact a) (outer : Option String) {parts : List Part}
    {base : Nat} (hwrites : writes = partWrites base parts) (hknown : ∀ part ∈ parts, Known s part)
    (put : Put) :
    put ∈ puts ↔ put ∈ (optionals (paramsOfAll outer parts)).zipIdx (start + base) := by
  -- on the run, and each step is that of the first part
  induction h generalizing parts base outer put with
  | done =>
      cases parts with
      | nil => exact Iff.rfl
      | cons part parts => cases hwrites
  | @stored head slot start rest puts next ih =>
      obtain ⟨part, parts, rfl, hpart, hrest⟩ := cons_eq_partWrites hwrites
      obtain ⟨-, hknown⟩ := List.forall_mem_cons.1 hknown
      have hnext := ih outer hrest hknown put
      cases part with
      | native head storage =>
          cases hpart
          rw [optionals_cons, List.mem_append, List.mem_cons]
          exact or_congr List.mem_singleton.symm hnext
      | _ => cases hpart
  | @converted head slot start conversion optional rest puts next ih =>
      obtain ⟨part, parts, rfl, hpart, hrest⟩ := cons_eq_partWrites hwrites
      obtain ⟨-, hknown⟩ := List.forall_mem_cons.1 hknown
      have hnext := ih outer hrest hknown put
      cases part with
      | mapped head conversion =>
          cases hpart
          rw [optionals_cons, List.mem_append, List.mem_cons]
          exact or_congr List.mem_singleton.symm hnext
      | _ => cases hpart
  | @existing head slot start path rest puts next ih =>
      obtain ⟨part, parts, rfl, hpart, hrest⟩ := cons_eq_partWrites hwrites
      obtain ⟨⟨-, huses⟩, hknown⟩ := List.forall_mem_cons.1 hknown
      have hnext := ih outer hrest hknown put
      cases part with
      | adapted head adapter =>
          cases hpart
          rw [optionals_cons, List.mem_append, List.mem_append]
          refine or_congr ?_ hnext
          rw [optionals_adapted]
          exact (hexact adapter (huses _ adapter rfl)).mem_iff _ put
      | _ => cases hpart
  | @generated head slot start structured rest inner puts listed call next ihCall ih =>
      obtain ⟨part, parts, rfl, hpart, hrest⟩ := cons_eq_partWrites hwrites
      obtain ⟨⟨hlisted, -⟩, hknown⟩ := List.forall_mem_cons.1 hknown
      have hnext := ih outer hrest hknown put
      cases part with
      | nested head' type inner' =>
          obtain ⟨rfl, hwrite⟩ := Prod.mk.inj hpart
          obtain ⟨rfl, hadapter⟩ := PartWrite.filled.inj hwrite
          rw [optionals_cons, List.mem_append, List.mem_append]
          refine or_congr ?_ hnext
          -- the type of the part stands for one structure
          obtain rfl : structured = ⟨type, inner'⟩ :=
            hlibrary.eq_of_type listed hlisted (AdapterName.generated.inj hadapter)
          exact ihCall _ rfl (known_of_mem hlibrary listed) put
      | _ => cases hpart

end

end Emit

end Rowsmith

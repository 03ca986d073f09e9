/-
Nested structures leaf by leaf: what is stored in a column is what the
parameter for this column gives back.

Four functions go down the parts of a structure. One names its columns,
one names the parameters from which it is built, and the adapter that is
generated for it builds a value from arguments and writes a value into
slots. The last two do not go all the way: they hand a part that is a
structure over to its adapter, with some of their arguments or with a
first slot. So what they do with the whole of a structure only shows when
they are run.

# What is modelled

A leaf is a value that has a column of its own. It is given by the fields
that lead to it, or if an existing adapter takes a value apart, by the
fields and a number. `Builds` says which leaf gets which argument when the
function that builds a value is called, and `Stores` which leaf goes into
which slot when the function that writes one is. An argument is found by
the name of its parameter, as in any program, while a call hands arguments
over by their position.

# The argument

Both functions visit the leaves in one order (`Structure.leaves`), each by
an induction on the run: a call uses up as many arguments and slots as the
called structure has leaves. That the functions can be called at all is
the other half. For writing it is plain. For building, the arguments that
are handed over have to suit the names of the called function, which has
other names for them; they do because the names differ by a prefix
(`paramsOfAll_some`).

Main results: a structure is written leaf after leaf (`Stores.eq`), and
built leaf after leaf, each from the next argument (`Builds.eq`).
-/
import Rowsmith.Proofs.Writing.Program

namespace Rowsmith

open Emit

-- =============================================================== leaves

namespace Emit

/-- A value with a column of its own: the identifiers of the fields that
lead to it, and which of the columns it is that the value there is taken
apart into. -/
structure Leaf where
  path : List String
  column : Nat
deriving DecidableEq, Repr

/-- A leaf of a part as one of the whole. -/
def Leaf.under (field : String) (leaf : Leaf) : Leaf :=
  { leaf with path := field :: leaf.path }

/-- The values that an existing adapter takes the value of a field apart
into. -/
def adapterLeaves (field : String) (count : Nat) : List Leaf :=
  (List.range count).map fun i => ⟨[field], i⟩

mutual

/-- The leaves of a part, in order. -/
def leavesOf : Part → List Leaf
  | .native head _ => [⟨[head.name], 0⟩]
  | .mapped head _ => [⟨[head.name], 0⟩]
  | .adapted head adapter => adapterLeaves head.name adapter.columns.length
  | .nested head _ parts => (leavesOfAll parts).map (·.under head.name)

/-- The leaves of several parts, in order. -/
def leavesOfAll : List Part → List Leaf
  | [] => []
  | part :: rest => leavesOf part ++ leavesOfAll rest

end

theorem length_adapterLeaves (field : String) (count : Nat) :
    (adapterLeaves field count).length = count := by
  rw [adapterLeaves, List.length_map, List.length_range]

/-- Items go with the leaves of an adapter by their positions. -/
theorem adapterLeaves_zip {β : Type} (field : String) (items : List β) :
    (adapterLeaves field items.length).zip items =
      items.zipIdx.map fun w => (⟨[field], w.2⟩, w.1) := by
  unfold adapterLeaves
  apply List.ext_getElem
  · rw [List.length_zip, List.length_map, List.length_range, Nat.min_self, List.length_map,
      List.length_zipIdx]
  · intro i h h'
    rw [List.getElem_zip, List.getElem_map, List.getElem_map, List.getElem_range,
      List.getElem_zipIdx, Nat.zero_add]

mutual

/-- A part has a leaf for each of its columns. -/
theorem length_leavesOf : (part : Part) → (leavesOf part).length = part.columnCount
  | .native _ _ => by rfl
  | .mapped _ _ => by rfl
  | .adapted head adapter => by
      unfold leavesOf Part.columnCount
      exact length_adapterLeaves head.name adapter.columns.length
  | .nested head type parts => by
      unfold leavesOf Part.columnCount
      rw [List.length_map]
      exact length_leavesOfAll parts

theorem length_leavesOfAll : (parts : List Part) →
    (leavesOfAll parts).length = Part.columnCountAll parts
  | [] => by rfl
  | part :: rest => by
      unfold leavesOfAll Part.columnCountAll
      rw [List.length_append, length_leavesOf part, length_leavesOfAll rest]

end

end Emit

/-- The leaves of a structure, in order. -/
def Structure.leaves (p : Structure) : List Leaf := leavesOfAll p.parts

-- ================================================================ cells

namespace Emit

/-- A column with the leaf that belongs into it. -/
abbrev Cell := Column × Leaf

mutual

/-- The columns of a part whose names begin with `outer`, each with its
leaf. -/
def cellsOf (outer : String) : Part → List Cell
  | .native head storage => [(⟨Naming.compound outer head.storageName, storage⟩, ⟨[head.name], 0⟩)]
  | .mapped head conversion =>
    [(⟨Naming.compound outer head.storageName, conversion.storage⟩, ⟨[head.name], 0⟩)]
  | .adapted head adapter =>
    (adapter.columnsUnder (Naming.compound outer head.storageName)).zip
      (adapterLeaves head.name adapter.columns.length)
  | .nested head _ parts =>
    (cellsOfAll (Naming.compound outer head.storageName) parts).map fun c =>
      (c.1, c.2.under head.name)

/-- The columns of several parts with their leaves, in order. -/
def cellsOfAll (outer : String) : List Part → List Cell
  | [] => []
  | part :: rest => cellsOf outer part ++ cellsOfAll outer rest

end

mutual

/-- The columns and the leaves of a part come from the same cells. -/
theorem map_cellsOf (outer : String) : (part : Part) →
    (cellsOf outer part).map Prod.fst = part.columns outer ∧
      (cellsOf outer part).map Prod.snd = leavesOf part
  | .native _ _ => ⟨by rfl, by rfl⟩
  | .mapped _ _ => ⟨by rfl, by rfl⟩
  | .adapted head adapter => by
      have hlength : (adapter.columnsUnder (Naming.compound outer head.storageName)).length =
          (adapterLeaves head.name adapter.columns.length).length := by
        rw [adapter.length_columnsUnder, length_adapterLeaves]
      unfold cellsOf
      exact ⟨List.map_fst_zip (Nat.le_of_eq hlength), List.map_snd_zip (Nat.le_of_eq hlength.symm)⟩
  | .nested head type parts => by
      obtain ⟨hcolumns, hleaves⟩ := map_cellsOfAll (Naming.compound outer head.storageName) parts
      unfold cellsOf Part.columns leavesOf
      rw [List.map_map, List.map_map, ← hcolumns, ← hleaves, List.map_map]
      exact ⟨rfl, rfl⟩

theorem map_cellsOfAll (outer : String) : (parts : List Part) →
    (cellsOfAll outer parts).map Prod.fst = Part.columnsAll outer parts ∧
      (cellsOfAll outer parts).map Prod.snd = leavesOfAll parts
  | [] => ⟨by rfl, by rfl⟩
  | part :: rest => by
      obtain ⟨hcolumns, hleaves⟩ := map_cellsOf outer part
      obtain ⟨hcolumns', hleaves'⟩ := map_cellsOfAll outer rest
      unfold cellsOfAll Part.columnsAll leavesOfAll
      rw [List.map_append, List.map_append, hcolumns, hleaves, hcolumns', hleaves']
      exact ⟨rfl, rfl⟩

end

end Emit

/-- The columns of a structure that is stored under a name, each with its
leaf. -/
def Structure.cells (p : Structure) (name : String) : List Cell := cellsOfAll name p.parts

namespace Emit

-- =============================================================== storing

/-- An adapter writes the columns it declares in order, from the first
slot on. -/
def ExistingAdapters.InOrder (existing : ExistingAdapters) (a : ProvidedAdapter) : Prop :=
  ∀ start, existing a.path start = List.range' start a.columns.length

/-- The slots into which the leaves of a structure go when it is written
from a slot on. -/
inductive Stores (s : Schema) (existing : ExistingAdapters) :
    List (PartHead × PartWrite) → Nat → List (Leaf × Nat) → Prop
  -- There is nothing left to write.
  | done {start : Nat} : Stores s existing [] start []
  -- A value goes into its slot.
  | stored {head : PartHead} {slot start : Nat} {rest : List (PartHead × PartWrite)}
      {stores : List (Leaf × Nat)} (next : Stores s existing rest start stores) :
      Stores s existing ((head, .stored slot) :: rest) start
        ((⟨[head.name], 0⟩, start + slot) :: stores)
  -- So does a converted value.
  | converted {head : PartHead} {slot start : Nat} {conversion : Conversion} {optional : Bool}
      {rest : List (PartHead × PartWrite)} {stores : List (Leaf × Nat)}
      (next : Stores s existing rest start stores) :
      Stores s existing ((head, .converted slot conversion optional) :: rest) start
        ((⟨[head.name], 0⟩, start + slot) :: stores)
  -- An existing adapter is called, which writes one value after the other.
  | existing {head : PartHead} {slot start : Nat} {path : String}
      {rest : List (PartHead × PartWrite)} {stores : List (Leaf × Nat)}
      (next : Stores s existing rest start stores) :
      Stores s existing ((head, .filled slot (.provided path)) :: rest) start
        ((existing path (start + slot)).zipIdx.map (fun w => (⟨[head.name], w.2⟩, w.1)) ++
          stores)
  -- The adapter of a structure is called.
  | generated {head : PartHead} {slot start : Nat} {structured : Structure}
      {rest : List (PartHead × PartWrite)} {inner stores : List (Leaf × Nat)}
      (listed : structured ∈ s.structures)
      (call : Stores s existing (partWrites 0 structured.parts) (start + slot) inner)
      (next : Stores s existing rest start stores) :
      Stores s existing ((head, .filled slot (.generated structured.type)) :: rest) start
        (inner.map (fun w => (w.1.under head.name, w.2)) ++ stores)

section

variable {s : Schema} {existing : ExistingAdapters} {writes : List (PartHead × PartWrite)}
  {start : Nat} {stores : List (Leaf × Nat)}

/-- The leaves go into the slots of which it is known what may be null in
them, in the same order: both describe one program. -/
theorem Stores.puts (h : Stores s existing writes start stores) :
    ∃ puts, Puts s existing writes start puts ∧ puts.map Prod.snd = stores.map Prod.snd := by
  induction h with
  | done => exact ⟨[], .done, rfl⟩
  | @stored head slot start rest stores _ ih =>
      obtain ⟨puts, hputs, hslots⟩ := ih
      exact ⟨_, .stored hputs, congrArg (List.cons (start + slot)) hslots⟩
  | @converted head slot start conversion optional rest stores _ ih =>
      obtain ⟨puts, hputs, hslots⟩ := ih
      exact ⟨_, .converted hputs, congrArg (List.cons (start + slot)) hslots⟩
  | @existing head slot start path rest stores _ ih =>
      obtain ⟨puts, hputs, hslots⟩ := ih
      refine ⟨_, .existing hputs, ?_⟩
      have hcall := List.zipIdx_map_fst 0 (existing path (start + slot))
      rw [List.map_append, List.map_append, List.map_map, List.map_map, hslots]
      show List.map id _ ++ _ = List.map Prod.fst _ ++ _
      rw [hcall, List.map_id]
  | @generated head slot start structured rest inner stores listed _ _ ihCall ih =>
      obtain ⟨inside, hinside, hinner⟩ := ihCall
      obtain ⟨puts, hputs, hslots⟩ := ih
      refine ⟨_, .generated listed hinside hputs, ?_⟩
      rw [List.map_append, List.map_append, List.map_map, hinner, hslots]
      rfl

/-- The leaves of an adapter that writes its columns in order. -/
theorem zipIdx_adapterLeaves (field : String) (count start : Nat) :
    (adapterLeaves field count).zipIdx start =
      (List.range' start count).zipIdx.map fun w => (⟨[field], w.2⟩, w.1) := by
  have hleaves := adapterLeaves_zip field (List.range' start count)
  rw [List.length_range'] at hleaves
  rw [← hleaves, List.zipIdx_eq_zip_range', length_adapterLeaves]

/-- The leaves of a part come before those of the other parts. -/
theorem zipIdx_leaves_cons (part : Part) (rest : List Part) (start base : Nat) :
    (leavesOfAll (part :: rest)).zipIdx (start + base) =
      (leavesOf part).zipIdx (start + base) ++
        (leavesOfAll rest).zipIdx (start + (base + part.columnCount)) := by
  rw [leavesOfAll, List.zipIdx_append, length_leavesOf, Nat.add_assoc]

/-- A structure is written leaf after leaf. -/
theorem Stores.eq (h : Stores s existing writes start stores) (hlibrary : Library s.structures)
    (hexisting : ∀ a, s.Uses a → existing.InOrder a) {parts : List Part} {base : Nat}
    (hwrites : writes = partWrites base parts) (hknown : ∀ part ∈ parts, Known s part) :
    stores = (leavesOfAll parts).zipIdx (start + base) := by
  -- on the run, and each step is that of the first part
  induction h generalizing parts base with
  | done =>
      cases parts with
      | nil => rfl
      | cons part parts => cases hwrites
  | @stored head slot start rest stores next ih =>
      obtain ⟨part, parts, rfl, hpart, hrest⟩ := cons_eq_partWrites hwrites
      obtain ⟨-, hothers⟩ := List.forall_mem_cons.1 hknown
      have hnext := ih hrest hothers
      cases part with
      | native head storage =>
          cases hpart
          rw [zipIdx_leaves_cons, ← hnext]
          rfl
      | _ => cases hpart
  | @converted head slot start conversion optional rest stores next ih =>
      obtain ⟨part, parts, rfl, hpart, hrest⟩ := cons_eq_partWrites hwrites
      obtain ⟨-, hothers⟩ := List.forall_mem_cons.1 hknown
      have hnext := ih hrest hothers
      cases part with
      | mapped head conversion =>
          cases hpart
          rw [zipIdx_leaves_cons, ← hnext]
          rfl
      | _ => cases hpart
  | @existing head slot start path rest stores next ih =>
      obtain ⟨part, parts, rfl, hpart, hrest⟩ := cons_eq_partWrites hwrites
      obtain ⟨⟨-, huses⟩, hothers⟩ := List.forall_mem_cons.1 hknown
      have hnext := ih hrest hothers
      cases part with
      | adapted head adapter =>
          cases hpart
          have horder := hexisting adapter (huses _ adapter rfl)
          rw [zipIdx_leaves_cons, ← hnext, horder (start + slot), leavesOf, zipIdx_adapterLeaves]
          rfl
      | _ => cases hpart
  | @generated head slot start structured rest inner stores listed call next ihCall ih =>
      obtain ⟨part, parts, rfl, hpart, hrest⟩ := cons_eq_partWrites hwrites
      obtain ⟨⟨hlisted, -⟩, hothers⟩ := List.forall_mem_cons.1 hknown
      have hnext := ih hrest hothers
      cases part with
      | nested head' type inner' =>
          obtain ⟨rfl, hwrite⟩ := Prod.mk.inj hpart
          obtain ⟨rfl, hadapter⟩ := PartWrite.filled.inj hwrite
          -- the type of the part stands for one structure
          obtain rfl : structured = ⟨type, inner'⟩ :=
            hlibrary.eq_of_type listed hlisted (AdapterName.generated.inj hadapter)
          have hcall := ihCall rfl (known_of_mem hlibrary listed)
          rw [zipIdx_leaves_cons, ← hnext, hcall]
          unfold leavesOf
          rw [List.zipIdx_map]
          rfl
      | _ => cases hpart

/-- Parts can be written: the calls of the functions of other structures
come to an end. -/
theorem exists_stores (s : Schema) (existing : ExistingAdapters) (hlibrary : Library s.structures) :
    (parts : List Part) → (∀ part ∈ parts, Known s part) → (base start : Nat) →
      ∃ stores, Stores s existing (partWrites base parts) start stores
  | [], _, _, _ => ⟨[], .done⟩
  | .native head storage :: rest, hknown, base, start => by
      obtain ⟨stores, hrest⟩ := exists_stores s existing hlibrary rest
        (List.forall_mem_cons.1 hknown).2 (base + 1) start
      exact ⟨_, .stored hrest⟩
  | .mapped head conversion :: rest, hknown, base, start => by
      obtain ⟨stores, hrest⟩ := exists_stores s existing hlibrary rest
        (List.forall_mem_cons.1 hknown).2 (base + 1) start
      exact ⟨_, .converted hrest⟩
  | .adapted head adapter :: rest, hknown, base, start => by
      obtain ⟨stores, hrest⟩ := exists_stores s existing hlibrary rest
        (List.forall_mem_cons.1 hknown).2 (base + adapter.columns.length) start
      exact ⟨_, .existing hrest⟩
  | .nested head type inner :: rest, hknown, base, start => by
      obtain ⟨⟨hlisted, -⟩, hothers⟩ := List.forall_mem_cons.1 hknown
      obtain ⟨inside, hcall⟩ := exists_stores s existing hlibrary inner
        (known_of_mem hlibrary hlisted) 0 (start + base)
      obtain ⟨stores, hrest⟩ := exists_stores s existing hlibrary rest hothers
        (base + Part.columnCountAll inner) start
      exact ⟨_, .generated hlisted hcall hrest⟩

theorem exists_puts (s : Schema) (existing : ExistingAdapters) (hlibrary : Library s.structures)
    {parts : List Part} (hknown : ∀ part ∈ parts, Known s part) (base start : Nat) :
    ∃ puts, Puts s existing (partWrites base parts) start puts := by
  obtain ⟨stores, hstores⟩ := exists_stores s existing hlibrary parts hknown base start
  obtain ⟨puts, hputs, -⟩ := hstores.puts
  exact ⟨puts, hputs⟩

end

-- ============================================================== building

/-- The leaves that are made of arguments when a structure is built. The
arguments are found by the names of the parameters. -/
inductive Builds (s : Schema) {α : Type} :
    (String → α) → List (PartHead × PartBuild) → List (Leaf × α) → Prop
  -- There is nothing left to build.
  | done {arg : String → α} : Builds s arg [] []
  -- A value is the argument for a parameter.
  | given {arg : String → α} {head : PartHead} {param : Param}
      {rest : List (PartHead × PartBuild)} {built : List (Leaf × α)}
      (next : Builds s arg rest built) :
      Builds s arg ((head, .given param) :: rest)
        ((⟨[head.name], 0⟩, arg param.name) :: built)
  -- Or it is the converted one.
  | converted {arg : String → α} {head : PartHead} {param : Param} {conversion : Conversion}
      {optional : Bool} {rest : List (PartHead × PartBuild)} {built : List (Leaf × α)}
      (next : Builds s arg rest built) :
      Builds s arg ((head, .converted param conversion optional) :: rest)
        ((⟨[head.name], 0⟩, arg param.name) :: built)
  -- An existing adapter is called, which makes one value after the other.
  | existing {arg : String → α} {head : PartHead} {path : String} {params : List Param}
      {rest : List (PartHead × PartBuild)} {built : List (Leaf × α)}
      (next : Builds s arg rest built) :
      Builds s arg ((head, .assembled (.provided path) params) :: rest)
        (((params.map fun q => arg q.name).zipIdx.map fun w => (⟨[head.name], w.2⟩, w.1)) ++
          built)
  -- The adapter of a structure is called, with arguments that it finds by
  -- the names of its own parameters.
  | generated {arg arg' : String → α} {head : PartHead} {params : List Param}
      {structured : Structure} {rest : List (PartHead × PartBuild)} {inner built : List (Leaf × α)}
      (listed : structured ∈ s.structures)
      (handed : (structureParams structured).map (fun q => arg' q.name) =
        params.map fun q => arg q.name)
      (call : Builds s arg' (partBuilds (structureParams structured) structured.parts) inner)
      (next : Builds s arg rest built) :
      Builds s arg ((head, .assembled (.generated structured.type) params) :: rest)
        (inner.map (fun w => (w.1.under head.name, w.2)) ++ built)

section

variable {s : Schema} {α : Type} {arg : String → α} {plan : List (PartHead × PartBuild)}
  {built : List (Leaf × α)}

/-- What the parts are built from first is what the first part is. -/
theorem cons_eq_ownBuilds {entry : PartHead × PartBuild} {parts : List Part}
    (h : entry :: plan = partBuilds (paramsOfAll none parts) parts) :
    ∃ part rest, parts = part :: rest ∧
      entry = (part.head, partBuild (paramsOf none part) part) ∧
      plan = partBuilds (paramsOfAll none rest) rest := by
  rw [partBuilds_paramsOfAll] at h
  cases parts with
  | nil => cases h
  | cons part rest =>
      obtain ⟨hentry, hplan⟩ := List.cons.inj h
      exact ⟨part, rest, rfl, hentry, hplan.trans (partBuilds_paramsOfAll none rest).symm⟩

/-- The leaves and arguments of a part come before those of the other
parts. -/
theorem zip_leaves_cons (arg : String → α) (part : Part) (rest : List Part) :
    (leavesOfAll (part :: rest)).zip
        ((paramsOfAll none (part :: rest)).map fun q => arg q.name) =
      (leavesOf part).zip ((paramsOf none part).map fun q => arg q.name) ++
        (leavesOfAll rest).zip ((paramsOfAll none rest).map fun q => arg q.name) := by
  have hlength : (leavesOf part).length =
      ((paramsOf none part).map fun q => arg q.name).length := by
    rw [List.length_map, length_leavesOf, length_paramsOf]
  rw [leavesOfAll, paramsOfAll, List.map_append, List.zip_append hlength]

/-- A structure is built leaf after leaf, each from the next argument. -/
theorem Builds.eq (h : Builds s arg plan built) (hlibrary : Library s.structures)
    {parts : List Part} (hplan : plan = partBuilds (paramsOfAll none parts) parts)
    (hknown : ∀ part ∈ parts, Known s part) :
    built = (leavesOfAll parts).zip ((paramsOfAll none parts).map fun q => arg q.name) := by
  -- on the run, and each step is that of the first part
  induction h generalizing parts with
  | done =>
      cases parts with
      | nil => rfl
      | cons part parts => cases hplan
  | @given arg head param rest built next ih =>
      obtain ⟨part, parts, rfl, hpart, hrest⟩ := cons_eq_ownBuilds hplan
      obtain ⟨-, hothers⟩ := List.forall_mem_cons.1 hknown
      have hnext := ih hrest hothers
      cases part with
      | native head storage =>
          cases hpart
          rw [zip_leaves_cons, ← hnext]
          rfl
      | _ => cases hpart
  | @converted arg head param conversion optional rest built next ih =>
      obtain ⟨part, parts, rfl, hpart, hrest⟩ := cons_eq_ownBuilds hplan
      obtain ⟨-, hothers⟩ := List.forall_mem_cons.1 hknown
      have hnext := ih hrest hothers
      cases part with
      | mapped head conversion =>
          cases hpart
          rw [zip_leaves_cons, ← hnext]
          rfl
      | _ => cases hpart
  | @existing arg head path params rest built next ih =>
      obtain ⟨part, parts, rfl, hpart, hrest⟩ := cons_eq_ownBuilds hplan
      obtain ⟨-, hothers⟩ := List.forall_mem_cons.1 hknown
      have hnext := ih hrest hothers
      cases part with
      | adapted head adapter =>
          obtain ⟨rfl, hbuild⟩ := Prod.mk.inj hpart
          obtain ⟨-, rfl⟩ := PartBuild.assembled.inj hbuild
          have hleaves := adapterLeaves_zip head.name
            ((paramsOf none (.adapted head adapter)).map fun q => arg q.name)
          rw [List.length_map, length_paramsOf] at hleaves
          rw [zip_leaves_cons, ← hnext, ← hleaves]
          rfl
      | _ => cases hpart
  | @generated arg arg' head params structured rest inner built listed handed call next ihCall ih =>
      obtain ⟨part, parts, rfl, hpart, hrest⟩ := cons_eq_ownBuilds hplan
      obtain ⟨⟨hlisted, -⟩, hothers⟩ := List.forall_mem_cons.1 hknown
      have hnext := ih hrest hothers
      cases part with
      | nested head' type inner' =>
          obtain ⟨rfl, hbuild⟩ := Prod.mk.inj hpart
          obtain ⟨hadapter, rfl⟩ := PartBuild.assembled.inj hbuild
          -- the type of the part stands for one structure
          obtain rfl : structured = ⟨type, inner'⟩ :=
            hlibrary.eq_of_type listed hlisted (AdapterName.generated.inj hadapter)
          have hcall := ihCall rfl (known_of_mem hlibrary listed)
          replace handed : (paramsOfAll none inner').map (fun q => arg' q.name) = _ := handed
          rw [handed] at hcall
          rw [zip_leaves_cons, ← hnext, hcall]
          unfold leavesOf
          rw [List.zip_map_left]
          rfl
      | _ => cases hpart

/-- Parts can be built from whatever arguments: the called functions find
theirs, whose names differ by the name of the part. -/
theorem exists_builds (s : Schema) (hlibrary : Library s.structures) :
    (parts : List Part) → (∀ part ∈ parts, Known s part) → (arg : String → α) →
      ∃ built, Builds s arg (parts.map fun part => (part.head, partBuild (paramsOf none part) part))
        built
  | [], _, _ => ⟨[], .done⟩
  | .native head storage :: rest, hknown, arg => by
      obtain ⟨built, hrest⟩ := exists_builds s hlibrary rest (List.forall_mem_cons.1 hknown).2 arg
      exact ⟨_, .given hrest⟩
  | .mapped head conversion :: rest, hknown, arg => by
      obtain ⟨built, hrest⟩ := exists_builds s hlibrary rest (List.forall_mem_cons.1 hknown).2 arg
      exact ⟨_, .converted hrest⟩
  | .adapted head adapter :: rest, hknown, arg => by
      obtain ⟨built, hrest⟩ := exists_builds s hlibrary rest (List.forall_mem_cons.1 hknown).2 arg
      exact ⟨_, .existing hrest⟩
  | .nested head type inner :: rest, hknown, arg => by
      obtain ⟨⟨hlisted, -⟩, hothers⟩ := List.forall_mem_cons.1 hknown
      obtain ⟨built, hrest⟩ := exists_builds s hlibrary rest hothers arg
      obtain ⟨inside, hcall⟩ := exists_builds s hlibrary inner (known_of_mem hlibrary hlisted)
        fun name => arg (Naming.compound head.storageName name)
      rw [← partBuilds_paramsOfAll none inner] at hcall
      refine ⟨_, .generated hlisted ?_ hcall hrest⟩
      show (paramsOfAll none inner).map _ = (paramsOfAll (some head.storageName) inner).map _
      rw [paramsOfAll_some, List.map_map]
      rfl

end

end Emit

end Rowsmith

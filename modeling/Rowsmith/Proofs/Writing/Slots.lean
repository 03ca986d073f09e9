/-
Writing in step with inserting: the parameters of an insert stand where
its columns do.

The insert statement lists the columns of a table. The function that
turns a model into parameters makes an array with one slot for each of
them: a field of one column writes its value there at once, and a field
that is stored through an adapter leaves its slots null until the adapter
is called with the first of them. The two are made by different code, and
the calls count the slots on their own. Here both are compared with the
fields of the table.

# The argument

Every field has as many slots as columns, so the fields before it decide
where its slots begin (`fieldWrites_append`); what it writes into them is
a matter of the field alone (`WrittenInPlace`). What an adapter writes
follows from how a structure is written (`Puts.mem_iff`). That the calls
write apart from each other, and exactly into the slots left null, is an
induction over the fields (`pairwise_calls`, `null_iff_called`).

Main result: `insert_lines_up`.
-/
import Rowsmith.Proofs.Resolve.Assembly
import Rowsmith.Proofs.Resolve.Integrity
import Rowsmith.Proofs.Writing.Code
import Rowsmith.Proofs.Writing.Leaves

namespace Rowsmith.Emit

open Text

-- ============================================================= adapters

/-- The adapter through which a field is stored, and its parameters. -/
def adapter? (f : TableField) : Option (AdapterName × List Param) :=
  match f.kind with
  | .native => none
  | .reference _ => none
  | .mapped _ => none
  | .adapted adapter => some (.provided adapter.path, providedParams adapter)
  | .nested structured => some (.generated structured.type, structureParams structured)

/-- An adapter has one parameter for each column of its field. -/
theorem length_params {f : TableField} (hf : f.Laid) {name : AdapterName} {params : List Param}
    (h : adapter? f = some (name, params)) : params.length = f.columnCount := by
  unfold TableField.Laid at hf
  unfold adapter? at h
  unfold TableField.columnCount
  cases hkind : f.kind with
  | adapted adapter =>
      rw [hkind] at hf h
      cases h
      obtain ⟨outer, hcolumns⟩ := hf
      rw [hcolumns, adapter.length_columnsUnder]
      exact List.length_map _
  | nested structured =>
      rw [hkind] at hf h
      cases h
      obtain ⟨outer, hcolumns⟩ := hf
      rw [hcolumns, structured.length_columns]
      exact length_paramsOfAll none structured.parts
  | _ =>
      rw [hkind] at h
      cases h

/-- A field that is stored without an adapter has one column. -/
theorem columnCount_of_adapter?_eq_none {f : TableField} (hf : f.Laid) (h : adapter? f = none) :
    f.columnCount = 1 := by
  unfold TableField.Laid at hf
  unfold adapter? at h
  unfold TableField.columnCount
  cases hkind : f.kind with
  | native =>
      rw [hkind] at hf
      obtain ⟨c, hcolumns⟩ := hf
      rw [hcolumns]
      rfl
  | reference r =>
      rw [hkind] at hf
      obtain ⟨name, hcolumns⟩ := hf
      rw [hcolumns]
      rfl
  | mapped conversion =>
      rw [hkind] at hf
      obtain ⟨name, hcolumns⟩ := hf
      rw [hcolumns]
      rfl
  | _ =>
      rw [hkind] at h
      cases h

/-- What the generated functions rely on when they write: structures are
found by their types, and existing adapters write what they declare. -/
structure Wired (s : Schema) (existing : ExistingAdapters) : Prop where
  library : Library s.structures
  nested : ∀ t ∈ s.tables, ∀ f ∈ t.fields, ∀ structured, f.kind = .nested structured →
    structured ∈ s.structures
  exact : ∀ a, s.Uses a → existing.Exact a

theorem wired_of_resolveWithin {room : Nat}
    {answers : List TypeExpr → TypeExpr → Except Failure (List FieldDecl)} {locator : Locator}
    {request : Request} {s : Schema} (h : resolveWithin room answers locator request = .ok s)
    {existing : ExistingAdapters} (hexact : ∀ a, s.Uses a → existing.Exact a) :
    Wired s existing where
  library := library_of_resolveWithin h
  nested _ ht _ hf _ := nested_mem_structures h ht hf
  exact := hexact

section

variable {s : Schema} {t : Table} {existing : ExistingAdapters} {f : TableField}
  {fields before after : List TableField} {start : Nat}

/-- The adapter of a field can be called, and whatever it puts into slots
is in step with its parameters. -/
theorem fills_ok (h : Wired s existing) (ht : t ∈ s.tables) (hf : f ∈ t.fields)
    {name : AdapterName} {params : List Param} (hadapter : adapter? f = some (name, params))
    (start : Nat) :
    (∃ puts, Fills s existing start puts name) ∧
      ∀ puts, Fills s existing start puts name →
        ∀ put, put ∈ puts ↔ put ∈ (optionals params).zipIdx start := by
  unfold adapter? at hadapter
  cases hkind : f.kind with
  | adapted adapter =>
      rw [hkind] at hadapter
      cases hadapter
      refine ⟨⟨_, rfl⟩, fun puts hputs put => ?_⟩
      have huses : s.Uses adapter := Or.inl ⟨t, ht, f, hf, hkind⟩
      subst hputs
      rw [optionals_provided]
      exact (h.exact adapter huses).mem_iff start put
  | nested structured =>
      rw [hkind] at hadapter
      cases hadapter
      have hmem := h.nested t ht f hf structured hkind
      have hknown := known_of_mem h.library hmem
      constructor
      · obtain ⟨puts, hputs⟩ := exists_puts s existing h.library hknown 0 start
        exact ⟨puts, structured, hmem, rfl, hputs⟩
      · rintro puts ⟨structured', hmem', htype, hputs⟩ put
        obtain rfl := h.library.eq_of_type hmem' hmem htype
        exact hputs.mem_iff h.library h.exact none rfl hknown put
  | _ =>
      rw [hkind] at hadapter
      cases hadapter

-- ================================================================ slots

/-- What stands in the slots of a field when the array is made: its value,
or nothing yet. -/
def FieldWrite.initial : FieldWrite → List (Option String)
  | .stored field => [some field]
  | .converted field _ _ => [some field]
  | .filled _ _ _ _ count => List.replicate count none

/-- A call of an adapter for a field, after the array is made. -/
structure Call where
  field : String
  adapter : AdapterName
  -- The call is left out if the value is absent.
  optional : Bool
  -- The slot it is called with, and how many it is meant for.
  start : Nat
  count : Nat

def FieldWrite.call? : FieldWrite → Option Call
  | .stored _ => none
  | .converted _ _ _ => none
  | .filled field adapter optional start count => some ⟨field, adapter, optional, start, count⟩

/-- The array as it is made for fields. -/
def initialArray (plan : List FieldWrite) : List (Option String) :=
  plan.flatMap FieldWrite.initial

/-- The calls that fill it, in order. -/
def calls (plan : List FieldWrite) : List Call := plan.filterMap FieldWrite.call?

/-- How many columns fields have. -/
def width (fields : List TableField) : Nat := total (fields.map (·.columnCount))

theorem width_eq_length (fields : List TableField) :
    width fields = (fields.flatMap (·.columns)).length :=
  (length_flatMap_eq_total _ _).symm

/-- The slots of further fields begin after those of the fields before
them. -/
theorem fieldWrites_append (start : Nat) (fields fields' : List TableField) :
    fieldWrites start (fields ++ fields') =
      fieldWrites start fields ++ fieldWrites (start + width fields) fields' := by
  induction fields generalizing start with
  | nil => rfl
  | cons f fields ih =>
      show fieldWrite start f :: fieldWrites (start + f.columnCount) (fields ++ fields') = _
      rw [ih, Nat.add_assoc]
      rfl

theorem length_fieldWrites (start : Nat) (fields : List TableField) :
    (fieldWrites start fields).length = fields.length := by
  induction fields generalizing start with
  | nil => rfl
  | cons f fields ih => exact congrArg Nat.succ (ih _)

/-- How a field is written: at once, or by a call of its adapter. -/
theorem fieldWrite_of_adapter?_eq_none (h : adapter? f = none) (start : Nat) :
    (fieldWrite start f).initial = [some f.name] ∧ (fieldWrite start f).call? = none := by
  unfold adapter? at h
  unfold fieldWrite
  cases hkind : f.kind with
  | adapted adapter =>
      rw [hkind] at h
      cases h
  | nested structured =>
      rw [hkind] at h
      cases h
  | _ => exact ⟨rfl, rfl⟩

theorem fieldWrite_of_adapter?_eq_some {name : AdapterName} {params : List Param}
    (h : adapter? f = some (name, params)) (start : Nat) :
    fieldWrite start f = .filled f.name name f.isOptional start f.columnCount := by
  unfold adapter? at h
  unfold fieldWrite
  cases hkind : f.kind with
  | adapted adapter =>
      rw [hkind] at h
      cases h
      rfl
  | nested structured =>
      rw [hkind] at h
      cases h
      rfl
  | _ =>
      rw [hkind] at h
      cases h

/-- A field has as many slots as columns. -/
theorem length_initial (hf : f.Laid) (start : Nat) :
    (fieldWrite start f).initial.length = f.columnCount := by
  cases h : adapter? f with
  | none =>
      rw [(fieldWrite_of_adapter?_eq_none h start).1, columnCount_of_adapter?_eq_none hf h]
      rfl
  | some adapter =>
      obtain ⟨name, params⟩ := adapter
      rw [fieldWrite_of_adapter?_eq_some h start]
      exact List.length_replicate

theorem length_initialArray (hfields : ∀ f ∈ fields, f.Laid) (start : Nat) :
    (initialArray (fieldWrites start fields)).length = width fields := by
  induction fields generalizing start with
  | nil => rfl
  | cons f fields ih =>
      obtain ⟨hf, hfields⟩ := List.forall_mem_cons.1 hfields
      show ((fieldWrite start f).initial ++ initialArray _).length = f.columnCount + width fields
      rw [List.length_append, length_initial hf, ih hfields]

/-- The array has a line for each of its slots. -/
theorem length_slotLines (plan : List FieldWrite) :
    (plan.flatMap FieldWrite.slotLines).length = (initialArray plan).length := by
  unfold initialArray
  rw [List.length_flatMap, List.length_flatMap]
  refine congrArg List.sum (List.map_congr_left fun write _ => ?_)
  cases write with
  | filled field adapter optional start count =>
      exact List.length_replicate.trans List.length_replicate.symm
  | _ => rfl

-- =============================================================== places

/-- A field is written in its place: its slots are where its columns are,
after those of the fields before it, and nothing else writes for it. A
field that is stored without an adapter has its value in its slot at once.
One that is stored through an adapter leaves its slots null, and then the
adapter is called once, with the first of them, and writes into these and
no others. -/
structure WrittenInPlace (s : Schema) (existing : ExistingAdapters) (t : Table)
    (before : List TableField) (f : TableField) : Prop where
  columns : (t.columns.drop (width before)).take f.columnCount = f.columns
  planned : (fieldWrites 0 t.fields)[before.length]? = some (fieldWrite (width before) f)
  slots : ((initialArray (fieldWrites 0 t.fields)).drop (width before)).take f.columnCount =
    (fieldWrite (width before) f).initial
  inline : adapter? f = none → f.columnCount = 1 ∧
    (fieldWrite (width before) f).initial = [some f.name] ∧
    (fieldWrite (width before) f).call? = none
  filled : ∀ name params, adapter? f = some (name, params) →
    (fieldWrite (width before) f).initial = List.replicate f.columnCount none ∧
    (fieldWrite (width before) f).call? =
      some ⟨f.name, name, f.isOptional, width before, f.columnCount⟩ ∧
    (∃ puts, Fills s existing (width before) puts name) ∧
    ∀ puts, Fills s existing (width before) puts name → ∀ k,
      k ∈ puts.map Prod.snd ↔ width before ≤ k ∧ k < width before + f.columnCount

/-- The slots that are in step with parameters follow one another. -/
theorem mem_slots_iff {params : List Param} {puts : List Put}
    (h : ∀ put, put ∈ puts ↔ put ∈ (optionals params).zipIdx start) (k : Nat) :
    k ∈ puts.map Prod.snd ↔ start ≤ k ∧ k < start + params.length := by
  have hmem : k ∈ puts.map Prod.snd ↔ k ∈ ((optionals params).zipIdx start).map Prod.snd := by
    simp only [List.mem_map, h]
  rw [hmem, List.zipIdx_map_snd, List.mem_range'_1, optionals, List.length_map]

theorem writtenInPlace (h : s.WellFormed) (hwired : Wired s existing) (ht : t ∈ s.tables)
    (hfields : t.fields = before ++ f :: after) : WrittenInPlace s existing t before f := by
  have hf : f ∈ t.fields := by
    rw [hfields]
    exact List.mem_append_right _ List.mem_cons_self
  have hlaid := h.laid t ht f hf
  have hbefore : ∀ f' ∈ before, f'.Laid := fun f' hf' =>
    h.laid t ht f' (hfields ▸ List.mem_append_left _ hf')
  have hplan : fieldWrites 0 t.fields = fieldWrites 0 before ++
      fieldWrite (width before) f :: fieldWrites (width before + f.columnCount) after := by
    rw [hfields, fieldWrites_append, Nat.zero_add]
    rfl
  constructor
  case columns =>
    unfold Table.columns
    rw [hfields, List.flatMap_append, List.drop_left' (width_eq_length before).symm,
      List.flatMap_cons]
    exact List.take_left' rfl
  case planned =>
    rw [hplan, ← length_fieldWrites 0 before, List.getElem?_append_right (Nat.le_refl _),
      Nat.sub_self]
    rfl
  case slots =>
    have hlength := length_initialArray hbefore 0
    unfold initialArray at hlength ⊢
    rw [hplan, List.flatMap_append, List.drop_left' hlength, List.flatMap_cons]
    exact List.take_left' (length_initial hlaid _)
  case inline =>
    intro hnone
    exact ⟨columnCount_of_adapter?_eq_none hlaid hnone, fieldWrite_of_adapter?_eq_none hnone _⟩
  case filled =>
    intro name params hadapter
    obtain ⟨hsome, hputs⟩ := fills_ok hwired ht hf hadapter (width before)
    rw [fieldWrite_of_adapter?_eq_some hadapter]
    refine ⟨rfl, rfl, hsome, fun puts hfills k => ?_⟩
    rw [mem_slots_iff (hputs puts hfills), length_params hlaid hadapter]

-- ================================================================ calls

/-- A call puts something into a slot. -/
def Call.Writes (s : Schema) (existing : ExistingAdapters) (c : Call) (k : Nat) : Prop :=
  ∃ puts, Fills s existing c.start puts c.adapter ∧ k ∈ puts.map Prod.snd

theorem calls_cons_of_none (h : adapter? f = none) (start : Nat) (fields : List TableField) :
    calls (fieldWrites start (f :: fields)) = calls (fieldWrites (start + f.columnCount) fields) :=
  List.filterMap_cons_none (fieldWrite_of_adapter?_eq_none h start).2

theorem calls_cons_of_some {name : AdapterName} {params : List Param}
    (h : adapter? f = some (name, params)) (start : Nat) (fields : List TableField) :
    calls (fieldWrites start (f :: fields)) =
      ⟨f.name, name, f.isOptional, start, f.columnCount⟩ ::
        calls (fieldWrites (start + f.columnCount) fields) :=
  List.filterMap_cons_some (by rw [fieldWrite_of_adapter?_eq_some h]; rfl)

/-- A call is made for one of the fields, with the slot that comes after
those of the fields before it. -/
theorem exists_of_mem_calls {c : Call} (h : c ∈ calls (fieldWrites start fields)) :
    ∃ before f after, fields = before ++ f :: after ∧ c.start = start + width before ∧
      c.field = f.name ∧ c.count = f.columnCount ∧
      ∃ params, adapter? f = some (c.adapter, params) := by
  induction fields generalizing start with
  | nil => cases h
  | cons f fields ih =>
      -- what holds of a call for a later field
      have hlater : c ∈ calls (fieldWrites (start + f.columnCount) fields) →
          ∃ before f' after, f :: fields = before ++ f' :: after ∧
            c.start = start + width before ∧ c.field = f'.name ∧ c.count = f'.columnCount ∧
            ∃ params, adapter? f' = some (c.adapter, params) := by
        intro h
        obtain ⟨before, f', after, rfl, hstart, hcall⟩ := ih h
        refine ⟨f :: before, f', after, rfl, ?_, hcall⟩
        rw [hstart, Nat.add_assoc]
        rfl
      cases hadapter : adapter? f with
      | none =>
          rw [calls_cons_of_none hadapter] at h
          exact hlater h
      | some adapter =>
          obtain ⟨name, params⟩ := adapter
          rw [calls_cons_of_some hadapter] at h
          rcases List.mem_cons.1 h with rfl | h
          · exact ⟨[], f, fields, rfl, rfl, rfl, rfl, params, hadapter⟩
          · exact hlater h

/-- No call is made before the first slot. -/
theorem le_start_of_mem_calls {c : Call} (h : c ∈ calls (fieldWrites start fields)) :
    start ≤ c.start := by
  obtain ⟨before, -, -, -, hstart, -⟩ := exists_of_mem_calls h
  rw [hstart]
  exact Nat.le_add_right ..

/-- Each call begins behind the slots of the calls before it. -/
theorem pairwise_calls (start : Nat) (fields : List TableField) :
    (calls (fieldWrites start fields)).Pairwise fun c c' => c.start + c.count ≤ c'.start := by
  induction fields generalizing start with
  | nil => exact .nil
  | cons f fields ih =>
      cases hadapter : adapter? f with
      | none =>
          rw [calls_cons_of_none hadapter]
          exact ih _
      | some adapter =>
          rw [calls_cons_of_some hadapter]
          exact .cons (fun c hc => le_start_of_mem_calls hc) (ih _)

/-- A slot is left null when the array is made exactly if a call is meant
for it. -/
theorem null_iff_called (hfields : ∀ f ∈ fields, f.Laid) (k : Nat) :
    (initialArray (fieldWrites start fields))[k]? = some none ↔
      ∃ c ∈ calls (fieldWrites start fields), c.start ≤ start + k ∧
        start + k < c.start + c.count := by
  induction fields generalizing start k with
  | nil => simp [initialArray, calls, fieldWrites]
  | cons f fields ih =>
      obtain ⟨hf, hfields⟩ := List.forall_mem_cons.1 hfields
      have harray : initialArray (fieldWrites start (f :: fields)) =
          (fieldWrite start f).initial ++
            initialArray (fieldWrites (start + f.columnCount) fields) :=
        List.flatMap_cons
      rw [harray]
      cases hadapter : adapter? f with
      | none =>
          rw [calls_cons_of_none hadapter, (fieldWrite_of_adapter?_eq_none hadapter start).1,
            columnCount_of_adapter?_eq_none hf hadapter]
          cases k with
          | zero =>
              -- calls are made for later slots only
              refine iff_of_false (fun h => by cases h) ?_
              rintro ⟨c, hc, hstart, -⟩
              have := le_start_of_mem_calls hc
              omega
          | succ k =>
              rw [List.singleton_append, List.getElem?_cons_succ, ih hfields, Nat.add_assoc,
                Nat.add_comm 1 k]
      | some adapter =>
          obtain ⟨name, params⟩ := adapter
          rw [calls_cons_of_some hadapter, fieldWrite_of_adapter?_eq_some hadapter start]
          simp only [List.mem_cons, exists_eq_or_imp]
          show (List.replicate f.columnCount none ++ _)[k]? = some none ↔ _
          rw [List.getElem?_append, List.length_replicate]
          split
          case isTrue hk =>
            refine iff_of_true (List.getElem?_replicate_of_lt hk) (Or.inl ⟨?_, ?_⟩)
            · exact Nat.le_add_right ..
            · exact Nat.add_lt_add_left hk _
          case isFalse hk =>
            have hplace : start + f.columnCount + (k - f.columnCount) = start + k := by omega
            rw [ih hfields, hplace]
            refine (or_iff_right ?_).symm
            rintro ⟨-, hstop⟩
            omega

/-- A call writes into the slots it is meant for, and into no others. -/
theorem writes_iff (h : s.WellFormed) (hwired : Wired s existing) (ht : t ∈ s.tables) {c : Call}
    (hc : c ∈ calls (fieldWrites 0 t.fields)) (k : Nat) :
    c.Writes s existing k ↔ c.start ≤ k ∧ k < c.start + c.count := by
  obtain ⟨before, f, after, hfields, -, -, hcount, params, hadapter⟩ := exists_of_mem_calls hc
  have hf : f ∈ t.fields := by
    rw [hfields]
    exact List.mem_append_right _ List.mem_cons_self
  obtain ⟨⟨puts, hfills⟩, hputs⟩ := fills_ok hwired ht hf hadapter c.start
  have hlength := length_params (h.laid t ht f hf) hadapter
  have hslots : ∀ puts, Fills s existing c.start puts c.adapter →
      (k ∈ puts.map Prod.snd ↔ c.start ≤ k ∧ k < c.start + c.count) := by
    intro puts hfills
    rw [mem_slots_iff (hputs puts hfills), hlength, hcount]
  constructor
  · rintro ⟨puts', hfills', hk⟩
    exact (hslots puts' hfills').1 hk
  · intro hk
    exact ⟨puts, hfills, (hslots puts hfills).2 hk⟩

-- ================================================================= main

/-- The fields of a table are in the order in which those of its model
are declared. -/
theorem declared_in_order {room : Nat}
    {answers : List TypeExpr → TypeExpr → Except Failure (List FieldDecl)} {locator : Locator}
    {request : Request} (hs : resolveWithin room answers locator request = .ok s)
    (ht : t ∈ s.tables) : ∃ asked decls, answers asked t.model = .ok decls ∧
      t.fields.map (·.name) = decls.map (·.name) := by
  obtain ⟨id, hid⟩ := List.mem_iff_getElem?.1 ht
  obtain ⟨request, -, hresolved⟩ := (resolveWithin_ok hs).tables id t hid
  obtain ⟨decls, ⟨asked, hanswer⟩, hfields⟩ := hresolved.fields
  have hmodel : t.model = request.model := by rw [hresolved.eq]; rfl
  refine ⟨asked, decls, hmodel ▸ hanswer, ?_⟩
  rw [← List.forall₂_eq_eq_eq, List.forall₂_map_left_iff, List.forall₂_map_right_iff]
  refine hfields.flip.imp fun f decl hfield => ?_
  obtain ⟨v, x, -, -, hf⟩ := hfield
  rw [hf.eq]

/-- The insert statement has a parameter for each of its columns. -/
theorem insert_clauses (h : s.WellFormed) (ht : t ∈ s.tables) (flavor : Sql.Flavor)
    (mode : Sql.InsertMode) :
    Sql.clauses s flavor (.insert t.id mode) =
      .ok [mode.keyword ++ t.name ++ " (" ++ commaJoin (t.columns.map (·.name)) ++ ")",
        "VALUES (" ++ commaJoin (t.columns.map fun _ => "?") ++ ")"] := by
  refine Attempt.bind_eq_ok.2 ⟨t, h.table ht, ?_⟩
  rw [List.map_const', t.length_columns]
  rfl

end

/-- A user, a place that may have a note and has a range of its own, and a
post with the key of a user, a range and a place. -/
def postingCatalog : Catalog where
  decls := [
    ⟨.named "User", [.plain "id" (.named "i32")], true, none, none, [], none⟩,
    ⟨.named "Place", [.plain "note" (.generic "Option" [.named "String"]),
      .plain "bounds" (.named "Range")], false, none, none, [], none⟩,
    ⟨.named "Post", [.plain "id" (.named "i32"), .plain "span" (.named "Range"),
      .plain "author" (.generic "ForeignInt" [.named "User"]), .plain "place" (.named "Place"),
      .plain "title" (.named "String")], true, none, none, [], none⟩]
  unsupported := []

/-- An existing adapter writes the two ends of a range. -/
def rangeRegistry : Registry :=
  Registry.empty.addAdapter (.named "Range")
    ⟨"crate::RangeAdapter", [⟨"low", .int⟩, ⟨"high", .int⟩]⟩

def postingRequest : Request := ⟨[.ofModel (.named "User"), .ofModel (.named "Post")], []⟩

/-- Existing adapters that write two slots each. -/
def pairAdapters : ExistingAdapters := fun _ start => [start + 1, start]

/-- Every adapter that a schema uses has two columns. -/
def usesPairs (s : Schema) : Bool :=
  (s.tables.all fun t => t.fields.all fun f => match f.kind with
    | .adapted a => a.columns.length == 2
    | _ => true) &&
  s.structures.all fun structured => structured.parts.all fun part => match part with
    | .adapted _ a => a.columns.length == 2
    | _ => true

theorem pairAdapters_exact {s : Schema} (h : usesPairs s = true) {a : ProvidedAdapter}
    (ha : s.Uses a) : pairAdapters.Exact a := by
  have hpair : a.columns.length = 2 := eq_of_beq (Schema.check_of_usesOnly h ha)
  intro start i
  rw [hpair]
  show i ∈ [start + 1, start] ↔ _
  rw [List.mem_pair]
  omega

end Rowsmith.Emit

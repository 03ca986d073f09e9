/-
Which texts have to fit on lines. Every step of a unit succeeds exactly if
the texts it is given are single lines: the names of fields and parameters,
the paths of types, of adapters and of what converts values, and the names
of variants. What the program adds to them is.

The plan of a step says which texts these are. There is one lemma for each
step, in the order in which the steps are put together.
-/
import Rowsmith.Proofs.Reading.Plans
import Rowsmith.Proofs.Resolve.Conversions
import Rowsmith.Proofs.Writing.Fitting

namespace Rowsmith

open Text

-- ================================================================ texts

/-- The texts that are written for a conversion. -/
def Conversion.texts : Conversion → List String
  | .provided path _ => [path]
  | .ordinal type variants => type.path :: variants

namespace Emit

theorem isSingleLine_repr (n : Nat) : isSingleLine n.repr = true := isSingleLine_toString n

attribute [local simp] isSingleLine_append isSingleLine_repr isSingleLine_quoted

/-- The path that an adapter is called by. -/
def AdapterName.fullPath (target : Target) : AdapterName → String
  | .provided path => path
  | .generated type => (Location.ofAdapter type).fullPath target

theorem isSingleLine_ident (name : String) : isSingleLine (ident name) = isSingleLine name := by
  unfold ident
  split
  · simp +decide
  · rfl

theorem isSingleLine_offset {base : String} (hbase : isSingleLine base = true) (index : Nat) :
    isSingleLine (offset base index) = true := by
  unfold offset
  split
  · exact hbase
  · simp +decide [hbase]

theorem Getter.isSingleLine_code (g : Getter) : isSingleLine g.code = true := by
  obtain ⟨storage, optional⟩ := g
  cases storage <;> cases optional <;> decide +kernel

theorem isSingleLine_itemName (item : RuntimeItem) : isSingleLine item.name = true := by
  cases item <;> decide

theorem isSingleLine_variantName (policy : FollowPolicy) :
    isSingleLine policy.variantName = true := by
  cases policy <;> decide

-- ========================================================== expressions

variable {target : Target}

theorem adapterName_emits (adapter : AdapterName) :
    Names (adapterName target adapter) (isSingleLine (adapter.fullPath target) = true) := by
  cases adapter with
  | provided path =>
      unfold adapterName
      dsimp only
      split
      · exact .path _
      · exact .pure trivial
  | generated type => exact .path _

/-- The variants of an enumeration are listed under the name it goes by. -/
theorem isSingleLine_variants {variants : List String} (hvariants : variants ≠ [])
    (name : String) :
    isSingleLine (commaJoin (variants.map fun v => name ++ "::" ++ v)) = true ↔
      isSingleLine name = true ∧ AllSingle variants := by
  have hcolons : isSingleLine "::" = true := by decide
  rw [isSingleLine_commaJoin, allSingle_map]
  simp only [isSingleLine_append, hcolons, Bool.and_true, Bool.and_eq_true]
  constructor
  · intro h
    obtain ⟨v, hv⟩ := List.exists_mem_of_ne_nil variants hvariants
    exact ⟨(h v hv).1, fun v hv => (h v hv).2⟩
  · intro ⟨hname, h⟩ v hv
    exact ⟨hname, h v hv⟩

/-- A stored value is converted on a line if the value and the texts of the
conversion are on one. -/
theorem convertedCode_emits {m : Conversion} (hm : m.Filled) (stored : String) (optional : Bool) :
    Names (convertedCode m stored optional)
      (isSingleLine stored = true ∧ AllSingle m.texts) := by
  have hmapped : ∀ (convert : String → String) (P : Prop),
      (∀ expr, isSingleLine (convert expr) = true ↔ isSingleLine expr = true ∧ P) →
      (isSingleLine (if optional then stored ++ ".map(|value| " ++ convert "value" ++ ")"
        else convert stored) = true ↔ isSingleLine stored = true ∧ P) := by
    intro convert P hconvert
    cases optional with
    | true => simp +decide [hconvert]
    | false => exact hconvert stored
  cases m with
  | provided path storage =>
      have hcode : Names (convertedCode (.provided path storage) stored optional) _ :=
        .pure trivial
      refine hcode.congr (hmapped _ _ fun expr => ?_)
      simp +decide [Conversion.toField, Conversion.toFieldAs, Conversion.texts, and_comm]
  | ordinal type variants =>
      have hcode : convertedCode (.ordinal type variants) stored optional =
          Writer.path (cratePath type) >>= fun name => pure (if optional then
            stored ++ ".map(|value| " ++
              (Conversion.ordinal type variants).toFieldAs "value" name ++ ")"
            else (Conversion.ordinal type variants).toFieldAs stored name) := rfl
      have hname : ∀ name expr,
          isSingleLine ((Conversion.ordinal type variants).toFieldAs expr name) = true ↔
            isSingleLine expr = true ∧ isSingleLine name = true ∧ AllSingle variants := by
        intro name expr
        have hlist := isSingleLine_variants hm name
        unfold commaJoin at hlist
        unfold Conversion.toFieldAs
        simp +decide [hlist, and_comm]
      rw [hcode]
      refine ((Emits.path _).bind fun name _ => (Emits.pure trivial).congr
        ((hmapped _ _ (hname name)).trans and_left_comm)).congr ?_
      rw [isSingleLine_cratePath, and_left_comm]
      simp only [Conversion.texts, allSingle_cons]

-- ============================================================= reading

section

variable {s : Schema} {id : TableId}

/-- The path that the accessor of a referenced table is called by, or the
name of the type itself if that is where the reference is read. -/
def accessorPath (s : Schema) (target : Target) (id : TableId) (r : Reference) : String :=
  if r.table = id then "Self"
  else ((s.tables[r.table]?).map fun t => (Location.ofTable t).fullPath target).getD ""

theorem accessorName_emits {r : Reference} (hr : ∃ t, s.table r.table = .ok t) :
    Names (accessorName s target id r) (isSingleLine (accessorPath s target id r) = true) := by
  obtain ⟨t, ht⟩ := hr
  unfold accessorName accessorPath
  split
  case isTrue => exact .pure trivial
  case isFalse =>
    rw [Schema.table_eq_ok.1 ht]
    exact .lift_ok ht (.path _)

theorem presentCode_emits {read : ReferenceRead} {arm : ReferenceArm} {key : String}
    (hr : ∃ t, s.table read.target.table = .ok t) (hkey : isSingleLine key = true) :
    Names (presentCode s target id read arm key)
      (arm.entity.isSome = true → isSingleLine (accessorPath s target id read.target) = true) := by
  have hoptional : ∀ reference, isSingleLine (if read.optional then "Some(" ++ reference ++ ")"
      else reference) = true ↔ isSingleLine reference = true := by
    intro reference
    cases read.optional <;> simp +decide
  have hfactory := isSingleLine_itemName (factoryItem read.target.shape)
  unfold presentCode
  cases arm.entity with
  | none =>
      refine .congr (.pure trivial) ((hoptional _).trans ?_)
      simp +decide [hfactory, hkey]
  | some policy =>
      have hvariant := isSingleLine_variantName policy
      have hpolicy := isSingleLine_itemName .readFollow
      refine .congr (.calling (accessorName_emits hr) fun accessor _ =>
        .item (.congr (.pure trivial) ((hoptional _).trans ?_))) (by simp)
      simp +decide [hfactory, hkey, hpolicy, hvariant]

theorem absentCode_fits (read : ReferenceRead) (skip : Nat) :
    Fits (absentCode read skip) True := by
  have habsent : isSingleLine (if read.optional then "None"
      else (factoryItem read.target.shape).name ++ "::empty()") = true := by
    have hfactory := isSingleLine_itemName (factoryItem read.target.shape)
    cases read.optional <;> simp +decide [hfactory]
  unfold absentCode
  dsimp only
  split
  · refine .congr (.bind (.linesOf _) fun b hb => .block hb _ _) ?_
    simp +decide [habsent]
  · refine .congr (.oneLine _) ?_
    rw [isSingleLine_append, habsent]
    decide

theorem armCode_gives {read : ReferenceRead} (arm : ReferenceArm)
    (hr : ∃ t, s.table read.target.table = .ok t) :
    Gives (armCode s target id read arm) Lines.Single
      (arm.entity.isSome = true → isSingleLine (accessorPath s target id read.target) = true) := by
  have hgetter := Getter.isSingleLine_code ⟨read.target.key, read.nullable⟩
  have hid : isSingleLine "id" = true := by decide
  have hpresent : isSingleLine (if read.target.key.isInteger then "Some(id) if id != 0"
      else "Some(id)") = true := by
    split <;> decide
  have hother : isSingleLine (if read.target.key.isInteger then "_" else "None") = true := by
    split <;> decide
  refine .item ?_
  dsimp only
  split
  case isTrue =>
    refine .after (.lift (absentCode_fits read arm.skip)) fun absent habsent =>
      .calling (presentCode_emits hr hid) fun present _ => .congr
        (.andThen (.lift (.oneLine _)) fun arms harms =>
          .andThen (.lift (.wrapped habsent _ _)) fun other hother =>
            .lift (.block (harms.append hother) _ _)) ?_
    simp +decide [hpresent, hother, hgetter]
  case isFalse =>
    split
    · refine .calling (presentCode_emits hr hid) fun present _ => .congr
        (.lift (.linesOf _)) ?_
      simp +decide [hgetter]
    · exact .calling (presentCode_emits hr hgetter) fun present _ => .lift (.oneLine present)

/-- What a field is read by fits on lines. -/
def FieldRead.Fits (s : Schema) (target : Target) (id : TableId) : FieldRead → Prop
  | .column _ => True
  | .converted _ conversion => AllSingle conversion.texts
  | .assembled adapter _ _ => isSingleLine (adapter.fullPath target) = true
  | .reference read => ∀ arm ∈ read.arms, arm.entity.isSome = true →
      isSingleLine (accessorPath s target id read.target) = true

/-- A field can be read: its table is there if it refers to one, and its
variants are known if it is an enumeration. -/
def FieldRead.Readable (s : Schema) : FieldRead → Prop
  | .converted _ conversion => conversion.Filled
  | .reference read => ∃ t, s.table read.target.table = .ok t
  | _ => True

theorem assembledCode_fits (adapter : String) (getters : List Getter) (optional : Bool) :
    Fits (assembledCode adapter getters optional) (isSingleLine adapter = true) := by
  have hgetters : AllSingle (getters.map Getter.code) :=
    allSingle_map.2 fun g _ => g.isSingleLine_code
  have hnulls : isSingleLine (String.intercalate " && " ((List.range getters.length).map fun i =>
      "row.is_null(" ++ offset "*start" i ++ ")")) = true := by
    refine isSingleLine_intercalate (by decide) (allSingle_map.2 fun i _ => ?_)
    have hoffset : isSingleLine (offset "*start" i) = true := isSingleLine_offset (by decide) i
    simp +decide [hoffset]
  unfold assembledCode
  dsimp only
  split
  · refine .congr (.linesOf _) ?_
    simp +decide [hgetters, hnulls]
  · refine .congr (.oneLine _) ?_
    simp +decide [hgetters]

theorem readCode_gives {read : FieldRead} (hread : read.Readable s) :
    Gives (readCode s target id read) Lines.Single (read.Fits s target id) := by
  cases read with
  | column getter =>
      exact .congr (.lift (.oneLine _)) (by simp [FieldRead.Fits, getter.isSingleLine_code])
  | converted getter conversion =>
      refine .congr (.calling (convertedCode_emits hread _ _) fun code _ =>
        .lift (.oneLine code)) ?_
      simp [FieldRead.Fits, getter.isSingleLine_code]
  | assembled adapter getters optional =>
      exact .calling (adapterName_emits adapter) fun name _ =>
        .lift (assembledCode_fits name getters optional)
  | reference read =>
      refine .item (.congr (.andThen (.foldlM (P := fun arm => arm.entity.isSome = true →
        isSingleLine (accessorPath s target id read.target) = true) (fun arm _ arms harms => ?_)
        .empty) fun arms harms => .lift (.block harms _ _)) ?_)
      · refine .before (armCode_gives arm hread) fun code hcode => ?_
        have hafter : isSingleLine (if code.length > 1 then "" else ",") = true := by
          split <;> decide
        refine .congr (.andThen (.lift (.wrapped hcode _ _)) fun b hb => .pure (harms.append hb)) ?_
        have hpolicy := isSingleLine_itemName .readFollow
        simp +decide [hafter, hpolicy, isSingleLine_variantName]
      · simp +decide [FieldRead.Fits]

/-- What a field of a table is read by fits on lines, under its name. -/
def ReadFits (s : Schema) (target : Target) (id : TableId) (f : TableField) : Prop :=
  isSingleLine f.name = true ∧ ∀ read, fieldRead s id f = .ok read → read.Fits s target id

theorem fromRowFunction_gives {t : Table} {model : String}
    (hreads : ∀ f ∈ t.fields, ∃ read, fieldRead s t.id f = .ok read ∧ read.Readable s) :
    Gives (fromRowFunction s target t model) Lines.Single
      (isSingleLine model = true ∧ ∀ f ∈ t.fields, ReadFits s target t.id f) := by
  have hpolicy : isSingleLine (if t.references.isEmpty then "_follow" else "follow") = true := by
    split <;> decide
  have hitem := isSingleLine_itemName
  refine .congr (.item (.item (.item (.andThen (.foldlM (P := ReadFits s target t.id)
    (fun f hf fields hfields => ?_) .empty) fun fields hfields =>
      .andThen (.lift (.block hfields _ _)) fun literal hliteral =>
        .andThen (.lift (.linesOf _)) fun signature hsignature =>
          .lift (.push (hsignature.appendIndented hliteral 1) _))))) ?_
  · obtain ⟨read, hread, hreadable⟩ := hreads f hf
    refine .congr (.lift_ok hread (.andThen (readCode_gives hreadable) fun code hcode =>
      .andThen (.lift (.wrapped hcode _ _)) fun b hb => .pure (hfields.append hb))) ?_
    simp +decide [ReadFits, hread, isSingleLine_ident, and_comm]
  · simp +decide [-List.isEmpty_iff, hitem, hpolicy, and_comm]

end

-- ============================================================= writing

/-- What a field is written by fits on lines. -/
def FieldWrite.Fits (target : Target) : FieldWrite → Prop
  | .stored field => isSingleLine field = true
  | .converted field conversion optional =>
    isSingleLine (convertedValue conversion (paramPlace field) optional) = true
  | .filled field adapter _ _ _ =>
    isSingleLine field = true ∧ isSingleLine (adapter.fullPath target) = true

theorem isSingleLine_paramPlace (field : String) :
    isSingleLine (paramPlace field) = true ↔ isSingleLine field = true := by
  unfold paramPlace
  simp +decide [isSingleLine_ident]

theorem fillCode_fits {slot array : String} (hslot : isSingleLine slot = true)
    (harray : isSingleLine array = true) (adapter place : String) (optional : Bool) :
    Fits (fillCode adapter place array slot optional)
      (isSingleLine adapter = true ∧ isSingleLine place = true) := by
  unfold fillCode
  cases optional with
  | true =>
      refine .congr (.bind (.oneLine _) fun fill hfill => .block hfill _ _) ?_
      simp +decide [hslot, harray]
  | false =>
      refine .congr (.oneLine _) ?_
      simp +decide [hslot, harray]

/-- The slots and fills of the fields so far are single lines. -/
structure WriteCode.Single (code : WriteCode) : Prop where
  slots : code.slots.Single
  fills : code.fills.Single

theorem WriteCode.add_gives {code : WriteCode} (hcode : code.Single) (write : FieldWrite) :
    Gives (WriteCode.add target code write) WriteCode.Single (write.Fits target) := by
  have hitem := isSingleLine_itemName
  cases write with
  | stored field =>
      refine .item (.congr (.andThen (.lift (.push hcode.slots _)) fun slots hslots =>
        .pure ⟨hslots, hcode.fills⟩) ?_)
      simp +decide [isSingleLine_paramPlace, FieldWrite.Fits]
  | converted field conversion optional =>
      refine .item (.congr (.andThen (.lift (.push hcode.slots _)) fun slots hslots =>
        .pure ⟨hslots, hcode.fills⟩) ?_)
      simp +decide [FieldWrite.Fits]
  | filled field adapter optional start count =>
      refine .congr (.bind (Q := isSingleLine field = true) (adapterName_emits adapter)
        fun name _ => .congr (.andThen (.lift (.pushAll hcode.slots _)) fun slots hslots =>
          .andThen (.lift (fillCode_fits (isSingleLine_toString start) (by decide) name _ optional))
            fun fill hfill => .pure ⟨hslots, hcode.fills.append hfill⟩) ?_) ?_
      · have hslots : AllSingle (List.replicate count (RuntimeItem.value.name ++ "::Null,")) := by
          intro line hline
          rw [List.eq_of_mem_replicate hline]
          decide
        simp [hslots, isSingleLine_paramPlace]
      · simp [FieldWrite.Fits, and_comm]

theorem valuesFunction_gives {name : String} (hname : isSingleLine name = true) (model : String)
    (fields : List TableField) :
    Gives (valuesFunction target name model fields) Lines.Single
      (isSingleLine model = true ∧ ∀ write ∈ fieldWrites 0 fields, write.Fits target) := by
  have hitem := isSingleLine_itemName
  refine .item (.congr (.andThen (Q := isSingleLine model = true)
    (.foldlM (P := FieldWrite.Fits target)
      (fun write _ code hcode => WriteCode.add_gives hcode write) ⟨.empty, .empty⟩)
    fun code hcode => ?_) and_comm)
  dsimp only
  split
  · refine .congr (.andThen (.lift (.block hcode.slots _ _)) fun body hbody =>
      .lift (.block hbody _ _)) ?_
    simp +decide [hname, hitem]
  · refine .congr (.andThen (.lift (.block hcode.slots _ _)) fun array harray =>
      .andThen (.lift (.push (harray.append hcode.fills) _)) fun body hbody =>
        .lift (.block hbody _ _)) ?_
    simp +decide [hname, hitem]

end Emit

end Rowsmith

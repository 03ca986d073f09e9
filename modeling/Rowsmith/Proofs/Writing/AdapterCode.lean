/-
The text of the functions of an adapter.

The adapter of a nested structure has a function that builds a value from
one argument for each column, and one that writes a value into
consecutive slots. Both are written from a plan with one entry for each
part, and here each entry is found again in the text: the field of a built
value has a line with the expression that the plan asks for
(`createInstanceFunction_ok`), and a part that is written has the lines
that fill the slots of the plan (`fillValuesFunction_ok`). What is said of
a plan is therefore said of the function.
-/
import Rowsmith.Emit.AdapterUnit
import Rowsmith.Proofs.Writing.Code

namespace Rowsmith.Emit

open Text

variable {target : Target} {u u' : Uses} {b b' : Lines}

/-- Code that is written one entry of a plan after the other has lines for
each of them. -/
theorem foldlM_lines {γ : Type} {step : Lines → γ → Writer Lines} {W : γ → List String → Prop}
    (hstep : ∀ b c u b' u', step b c u = .ok (b', u') →
      ∃ lines, W c lines ∧ b'.lines = b.lines ++ lines)
    {plan : List γ} (h : plan.foldlM step b u = .ok (b', u')) :
    ∃ entries, List.Forall₂ W plan entries ∧ b'.lines = b.lines ++ entries.flatten := by
  induction plan generalizing b u with
  | nil =>
      obtain ⟨rfl, -⟩ := Writer.pure_eq_ok.1 h
      exact ⟨[], .nil, (List.append_nil _).symm⟩
  | cons c plan ih =>
      obtain ⟨b₁, u₁, hfirst, hrest⟩ := Writer.bind_eq_ok.1 h
      obtain ⟨lines, hlines, hb₁⟩ := hstep b c u b₁ u₁ hfirst
      obtain ⟨entries, hentries, hb'⟩ := ih hrest
      refine ⟨lines :: entries, .cons hlines hentries, ?_⟩
      rw [hb', hb₁, List.flatten_cons, List.append_assoc]

-- ============================================================== building

/-- An expression puts a part together as planned: it is the parameter, or
the converted parameter, or it hands its parameters to an adapter, all of
them and in order, under a name by which the adapter is called. -/
def PartBuild.WrittenAs (target : Target) (expr : String) : PartBuild → Prop
  | .given param => expr = ident param.name
  | .converted param conversion optional =>
    ∃ u u', convertedCode conversion (ident param.name) optional u = .ok (expr, u')
  | .assembled adapter params => ∃ name, (∃ u u', adapterName target adapter u = .ok (name, u')) ∧
      expr = name ++ "::create_instance(" ++ commaJoin (params.map fun q => ident q.name) ++ ")"

theorem buildCode_ok {build : PartBuild} {expr : String}
    (h : buildCode target build u = .ok (expr, u')) : build.WrittenAs target expr := by
  cases build with
  | given param =>
      obtain ⟨rfl, -⟩ := Writer.pure_eq_ok.1 h
      rfl
  | converted param conversion optional => exact ⟨u, u', h⟩
  | assembled adapter params =>
      obtain ⟨name, u₁, hname, h⟩ := Writer.bind_eq_ok.1 h
      obtain ⟨rfl, -⟩ := Writer.pure_eq_ok.1 h
      exact ⟨name, ⟨u, u₁, hname⟩, rfl⟩

/-- The line that gives a field of a built value its expression. -/
def fieldLine (head : PartHead) (expr : String) : String :=
  if expr = ident head.name then ident head.name ++ ","
  else ident head.name ++ ": " ++ expr ++ ","

/-- The lines of a field of a built value. -/
def BuildLines (target : Target) (entry : PartHead × PartBuild) (lines : List String) : Prop :=
  ∃ expr, entry.2.WrittenAs target expr ∧ lines = [fieldLine entry.1 expr]

/-- The lines of a function that takes parameters and gives its fields to
a value. -/
def createLines (type : String) (params : List Param) (fields : List String) : List String :=
  ["pub fn create_instance("] ++
    (params.map fun q => "    " ++ ident q.name ++ ": " ++ q.code ++ ",") ++
    [") -> " ++ type ++ " \x7b"] ++
    (blockLines (type ++ " \x7b") fields "\x7d").map (Lines.indentLine 1) ++ ["\x7d"]

/-- The function that builds a value takes the parameters of the structure
and has a line for each of its parts. -/
theorem createInstanceFunction_ok {s : Structure} {type : String}
    (h : createInstanceFunction target s type u = .ok (b, u')) :
    ∃ fields, List.Forall₂ (BuildLines target) (partBuilds (structureParams s) s.parts) fields ∧
      b.lines = createLines type (structureParams s) fields.flatten := by
  obtain ⟨body, u₁, hbody, h⟩ := Writer.bind_eq_ok.1 h
  obtain ⟨signature, u₂, hsignature, h⟩ := Writer.bind_eq_ok.1 h
  obtain ⟨inner, u₃, hinner, h⟩ := Writer.bind_eq_ok.1 h
  have hline : ∀ (b : Lines) (entry : PartHead × PartBuild) (u : Uses) (b' : Lines) (u' : Uses),
      (do
        let value ← buildCode target entry.2
        b.push (if value = ident entry.1.name then ident entry.1.name ++ ","
          else ident entry.1.name ++ ": " ++ value ++ ",") : Writer Lines) u = .ok (b', u') →
      ∃ lines, BuildLines target entry lines ∧ b'.lines = b.lines ++ lines := by
    intro b entry u b' u' hentry
    obtain ⟨expr, u₁, hexpr, hpush⟩ := Writer.bind_eq_ok.1 hentry
    obtain ⟨-, rfl⟩ := Lines.push_eq_ok.1 (Writer.lift_eq_ok.1 hpush).1
    exact ⟨_, ⟨expr, buildCode_ok hexpr, rfl⟩, rfl⟩
  obtain ⟨fields, hfields, hlines⟩ := foldlM_lines hline hbody
  refine ⟨fields, hfields, ?_⟩
  obtain ⟨-, rfl⟩ := Lines.push_eq_ok.1 (Writer.lift_eq_ok.1 h).1
  have hopening := Lines.pushAll_lines (Writer.lift_eq_ok.1 hsignature).1
  have hblock := block_lines (Writer.lift_eq_ok.1 hinner).1
  have hempty : Lines.empty.lines = [] := rfl
  rw [hempty, List.nil_append] at hlines hopening
  rw [hlines] at hblock
  show signature.lines ++ inner.lines.map (Lines.indentLine 1) ++ ["\x7d"] = _
  rw [hopening, hblock]
  rfl

-- =============================================================== writing

/-- The place of a slot in the array, counted from the one that a function is
called with. -/
def slotText : Nat → String
  | 0 => "start"
  | slot + 1 => "start + " ++ toString (slot + 1)

theorem offset_start (slot : Nat) : offset "start" slot = slotText slot := by
  cases slot with
  | zero => rfl
  | succ slot => exact if_neg slot.succ_ne_zero

/-- Lines write a part as planned: one line for a value that goes into its
slot, or else the call of an adapter with the first of its slots, under a
name by which it is called. Slots are counted from the one that the
function is called with. -/
def PartWrite.WrittenAs (target : Target) (head : PartHead) (lines : List String) :
    PartWrite → Prop
  | .stored slot =>
    lines = ["array[" ++ slotText slot ++ "] = param." ++ ident head.name ++ ".to_value();"]
  | .converted slot conversion optional =>
    lines = ["array[" ++ slotText slot ++ "] = " ++
      convertedValue conversion ("param." ++ ident head.name) optional ++ ";"]
  | .filled slot adapter => ∃ name, (∃ u u', adapterName target adapter u = .ok (name, u')) ∧
      lines = fillLines name ("param." ++ ident head.name) "array" (slotText slot) false

theorem writeCode_ok {head : PartHead} {write : PartWrite}
    (h : writeCode target head write u = .ok (b, u')) : write.WrittenAs target head b.lines := by
  unfold writeCode at h
  simp only [offset_start] at h
  cases write with
  | stored slot =>
      obtain ⟨_, u₁, -, h⟩ := Writer.bind_eq_ok.1 h
      obtain ⟨-, rfl⟩ := Lines.push_eq_ok.1 (Writer.lift_eq_ok.1 h).1
      rfl
  | converted slot conversion optional =>
      obtain ⟨_, u₁, -, h⟩ := Writer.bind_eq_ok.1 h
      obtain ⟨-, rfl⟩ := Lines.push_eq_ok.1 (Writer.lift_eq_ok.1 h).1
      rfl
  | filled slot adapter =>
      obtain ⟨name, u₁, hname, h⟩ := Writer.bind_eq_ok.1 h
      exact ⟨name, ⟨u, u₁, hname⟩, fillCode_lines (Writer.lift_eq_ok.1 h).1⟩

/-- The lines that write one part. -/
def WriteLines (target : Target) (entry : PartHead × PartWrite) (lines : List String) : Prop :=
  entry.2.WrittenAs target entry.1 lines

/-- The function that writes a value has the lines for each of its parts,
in order. -/
theorem fillValuesFunction_ok {s : Structure} {type : String}
    (h : fillValuesFunction target s type u = .ok (b, u')) :
    ∃ entries, List.Forall₂ (WriteLines target) (partWrites 0 s.parts) entries ∧
      b.lines = blockLines ("pub fn fill_values(param: &" ++ type ++ ", array: &mut [" ++
        RuntimeItem.value.name ++ "], start: usize) \x7b") entries.flatten "\x7d" := by
  obtain ⟨value, u₁, hvalue, h⟩ := Writer.bind_eq_ok.1 h
  obtain ⟨rfl, -⟩ := Writer.item_eq_ok.1 hvalue
  obtain ⟨body, u₂, hbody, h⟩ := Writer.bind_eq_ok.1 h
  have hentry : ∀ (b : Lines) (entry : PartHead × PartWrite) (u : Uses) (b' : Lines) (u' : Uses),
      (do return b ++ (← writeCode target entry.1 entry.2) : Writer Lines) u = .ok (b', u') →
      ∃ lines, WriteLines target entry lines ∧ b'.lines = b.lines ++ lines := by
    intro b entry u b' u' hwrite
    obtain ⟨code, u₁, hcode, hpure⟩ := Writer.bind_eq_ok.1 hwrite
    obtain ⟨rfl, -⟩ := Writer.pure_eq_ok.1 hpure
    exact ⟨code.lines, writeCode_ok hcode, Lines.lines_append ..⟩
  obtain ⟨entries, hentries, hlines⟩ := foldlM_lines hentry hbody
  refine ⟨entries, hentries, ?_⟩
  have hempty : Lines.empty.lines = [] := rfl
  rw [hempty, List.nil_append] at hlines
  rw [block_lines (Writer.lift_eq_ok.1 h).1, hlines]

-- ================================================================= units

/-- The line that lists the columns of an adapter. -/
def columnsLine (names : List String) : String :=
  "pub const COLUMNS: [&'static str; " ++ toString names.length ++ "] = [" ++
    commaJoin (names.map quoted) ++ "];"

/-- The lines of the unit of an adapter below the names it brings into
scope. -/
def adapterLines (s : Structure) (create fill fresh : List String) : List String :=
  ["pub struct " ++ s.adapterName ++ ";", ""] ++
    blockLines ("impl " ++ s.adapterName ++ " \x7b")
      ([columnsLine ((structureParams s).map (·.name)), ""] ++ create ++ [""] ++ fill ++ [""] ++
        fresh) "\x7d"

/-- The unit of an adapter lists its columns and has its functions in it,
which are written after the structure got its name. -/
theorem adapterUnit_lines {s : Structure} {file : SourceFile}
    (h : adapterUnit target s = .ok file) :
    ∃ type u create u₁ fill u₂ fresh uses body,
      Writer.path (cratePath s.type) (.start target.runtime s.adapterName) = .ok (type, u) ∧
      createInstanceFunction target s type u = .ok (create, u₁) ∧
      fillValuesFunction target s type u₁ = .ok (fill, u₂) ∧
      newValuesFunction type (structureParams s).length u₂ = .ok (fresh, uses) ∧
      unitFile (.ofAdapter s.type) uses body = .ok file ∧
      body.lines = adapterLines s create.lines fill.lines fresh.lines := by
  obtain ⟨⟨body, uses⟩, hbody, hfile⟩ := Attempt.bind_eq_ok.1 h
  obtain ⟨type, u, htype, h⟩ := Writer.bind_eq_ok.1 hbody
  obtain ⟨columns, _, hcolumns, h⟩ := Writer.bind_eq_ok.1 h
  obtain ⟨create, u₁, hcreate, h⟩ := Writer.bind_eq_ok.1 h
  obtain ⟨fill, u₂, hfill, h⟩ := Writer.bind_eq_ok.1 h
  obtain ⟨fresh, u₃, hfresh, h⟩ := Writer.bind_eq_ok.1 h
  obtain ⟨first, _, hfirst, h⟩ := Writer.bind_eq_ok.1 h
  obtain ⟨second, _, hsecond, h⟩ := Writer.bind_eq_ok.1 h
  obtain ⟨declaration, _, hdeclaration, h⟩ := Writer.bind_eq_ok.1 h
  obtain ⟨adapter, _, hadapter, h⟩ := Writer.bind_eq_ok.1 h
  obtain ⟨rfl, rfl⟩ := Writer.pure_eq_ok.1 h
  obtain ⟨hblock, rfl⟩ := Writer.lift_eq_ok.1 hadapter
  obtain ⟨hpush, rfl⟩ := Writer.lift_eq_ok.1 hdeclaration
  obtain ⟨hlast, rfl⟩ := Writer.lift_eq_ok.1 hsecond
  obtain ⟨hnext, rfl⟩ := Writer.lift_eq_ok.1 hfirst
  obtain ⟨hlist, rfl⟩ := Writer.lift_eq_ok.1 hcolumns
  obtain ⟨-, rfl⟩ := Lines.push_eq_ok.1 hlast
  obtain ⟨-, rfl⟩ := Lines.push_eq_ok.1 hnext
  refine ⟨type, _, create, _, fill, _, fresh, _, _, htype, hcreate, hfill, hfresh, hfile, ?_⟩
  have hempty : Lines.empty.lines = [] := rfl
  have hnames : columns.lines = [columnsLine ((structureParams s).map (·.name)), ""] := by
    rw [Lines.pushAll_lines hlist, hempty]
    unfold columnsLine
    rw [List.length_map, List.map_map]
    rfl
  rw [Lines.lines_append, Lines.pushAll_lines hpush, block_lines hblock, hempty]
  unfold adapterLines
  rw [← hnames]
  rfl

end Rowsmith.Emit

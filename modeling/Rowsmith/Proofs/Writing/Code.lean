/-
The text of the functions that turn a model into parameters.

The plan of such a function says what goes into which slot. Its text is
written line by line, and so each slot of the plan has a line of its own
in the array that is made, and each call of an adapter the lines that
follow it (`valuesFunction_ok`). What is said of a plan is therefore said
of the function, if there is one: a name with a line break in it cannot be
written.
-/
import Rowsmith.Emit.TableUnit
import Rowsmith.Proofs.Attempt

namespace Rowsmith

open Text

-- ============================================================== writers

namespace Emit.Writer

variable {α β : Type} {u u' : Uses}

theorem bind_eq_ok {x : Writer α} {f : α → Writer β} {b : β} :
    (x >>= f) u = .ok (b, u') ↔ ∃ a v, x u = .ok (a, v) ∧ f a v = .ok (b, u') := by
  show Except.bind (x u) (fun r => f r.1 r.2) = _ ↔ _
  cases x u with
  | error e => simp [Except.bind]
  | ok r => simp [Except.bind, Prod.ext_iff, and_assoc]

theorem pure_eq_ok {a b : α} : (pure a : Writer α) u = .ok (b, u') ↔ b = a ∧ u' = u := by
  show Except.ok (a, u) = Except.ok (b, u') ↔ _
  rw [Except.ok.injEq, Prod.mk.injEq]
  exact ⟨fun h => ⟨h.1.symm, h.2.symm⟩, fun h => ⟨h.1.symm, h.2.symm⟩⟩

/-- What needs no names succeeds as it does alone. -/
theorem lift_eq_ok {x : Except Defect α} {a : α} :
    (liftM x : Writer α) u = .ok (a, u') ↔ x = .ok a ∧ u' = u := by
  show Except.bind x (fun a => Except.ok (a, u)) = _ ↔ _
  cases x with
  | error e => simp [Except.bind]
  | ok b => simp [Except.bind, Prod.ext_iff, eq_comm]

theorem item_eq_ok {i : RuntimeItem} {name : String} :
    item i u = .ok (name, u') ↔ name = i.name ∧ u' = u.useItem i := by
  show Except.ok (i.name, u.useItem i) = Except.ok (name, u') ↔ _
  rw [Except.ok.injEq, Prod.mk.injEq]
  exact ⟨fun h => ⟨h.1.symm, h.2.symm⟩, fun h => ⟨h.1.symm, h.2.symm⟩⟩

theorem map_eq_ok {x : Writer α} {f : α → β} {b : β} :
    (f <$> x) u = .ok (b, u') ↔ ∃ a, x u = .ok (a, u') ∧ b = f a := by
  rw [map_eq_pure_bind, bind_eq_ok]
  constructor
  · rintro ⟨a, v, hx, hpure⟩
    obtain ⟨rfl, rfl⟩ := pure_eq_ok.1 hpure
    exact ⟨a, hx, rfl⟩
  · rintro ⟨a, hx, rfl⟩
    exact ⟨a, u', hx, pure_eq_ok.2 ⟨rfl, rfl⟩⟩

/-- One of two attempts is made, and what follows is the same. -/
theorem ite_bind_eq_ok {condition : Prop} [Decidable condition] {x y : Writer α} {f : α → Writer β}
    {b : β} : (if condition then x >>= f else y >>= f) u = .ok (b, u') ↔
      ∃ a v, (if condition then x else y) u = .ok (a, v) ∧ f a v = .ok (b, u') := by
  by_cases hcondition : condition
  · rw [if_pos hcondition, if_pos hcondition]
    exact bind_eq_ok
  · rw [if_neg hcondition, if_neg hcondition]
    exact bind_eq_ok

end Emit.Writer

-- ================================================================ lines

namespace Text.Lines

theorem pushAll_lines {b b' : Lines} {lines : List String} (h : b.pushAll lines = .ok b') :
    b'.lines = b.lines ++ lines := by
  unfold pushAll at h
  induction lines generalizing b with
  | nil =>
      obtain rfl := Attempt.pure_eq_ok.1 h
      exact (List.append_nil _).symm
  | cons line lines ih =>
      obtain ⟨b₁, hpush, hrest⟩ := Attempt.bind_eq_ok.1 h
      obtain ⟨-, rfl⟩ := push_eq_ok.1 hpush
      rw [ih hrest, List.append_assoc]
      rfl

end Text.Lines

namespace Emit

/-- The lines of a block. -/
def blockLines (opening : String) (body : List String) (closing : String) : List String :=
  opening :: body.map (Lines.indentLine 1) ++ [closing]

theorem block_lines {opening closing : String} {body b : Lines}
    (h : block opening body closing = .ok b) : b.lines = blockLines opening body.lines closing := by
  obtain ⟨b₁, hopening, hclosing⟩ := Attempt.bind_eq_ok.1 h
  obtain ⟨-, rfl⟩ := Lines.push_eq_ok.1 hopening
  obtain ⟨-, rfl⟩ := Lines.push_eq_ok.1 hclosing
  rfl

-- =============================================================== fields

/-- The lines for the slots of a field: one for each of them. -/
def FieldWrite.slotLines : FieldWrite → List String
  | .stored field => ["param." ++ ident field ++ ".to_value(),"]
  | .converted field conversion optional =>
    [convertedValue conversion ("param." ++ ident field) optional ++ ","]
  | .filled _ _ _ _ count => List.replicate count (RuntimeItem.value.name ++ "::Null,")

/-- The lines that have an adapter, under the name it goes by, write the
value at a place into an array from a slot on. -/
def fillLines (name place array slot : String) (optional : Bool) : List String :=
  if optional then
    blockLines ("if let Some(value) = &" ++ place ++ " \x7b")
      [name ++ "::fill_values(value, " ++ array ++ ", " ++ slot ++ ");"] "\x7d"
  else [name ++ "::fill_values(&" ++ place ++ ", " ++ array ++ ", " ++ slot ++ ");"]

/-- The lines that follow the array for a field, whose adapter goes by a
name. -/
def FieldWrite.callLines (name : String) : FieldWrite → List String
  | .stored _ => []
  | .converted _ _ _ => []
  | .filled field _ optional start _ =>
    fillLines name ("param." ++ ident field) "&mut array" (toString start) optional

/-- A name is one by which the adapter of a field is called in some unit,
if the field is stored through an adapter. -/
def FieldWrite.CallsAs (target : Target) (name : String) : FieldWrite → Prop
  | .stored _ => True
  | .converted _ _ _ => True
  | .filled _ adapter _ _ _ => ∃ u u', adapterName target adapter u = .ok (name, u')

theorem fillCode_lines {name place array slot : String} {optional : Bool} {b : Lines}
    (h : fillCode name place array slot optional = .ok b) :
    b.lines = fillLines name place array slot optional := by
  unfold fillCode at h
  unfold fillLines
  cases optional with
  | true =>
      obtain ⟨fill, hfill, hblock⟩ := Attempt.bind_eq_ok.1 h
      obtain ⟨-, rfl⟩ := Lines.push_eq_ok.1 hfill
      exact block_lines hblock
  | false =>
      obtain ⟨-, rfl⟩ := Lines.push_eq_ok.1 h
      rfl

variable {target : Target} {u u' : Uses} {code code' : WriteCode}

/-- A field adds the lines for its slots to the array, and those of its
call to what follows. -/
theorem WriteCode.add_ok {write : FieldWrite}
    (h : WriteCode.add target code write u = .ok (code', u')) :
    code'.slots.lines = code.slots.lines ++ write.slotLines ∧
      ∃ name, write.CallsAs target name ∧
        code'.fills.lines = code.fills.lines ++ write.callLines name := by
  cases write with
  | stored field =>
      obtain ⟨_, _, -, h⟩ := Writer.bind_eq_ok.1 h
      obtain ⟨slots, _, hpush, h⟩ := Writer.bind_eq_ok.1 h
      obtain ⟨rfl, -⟩ := Writer.pure_eq_ok.1 h
      obtain ⟨hpush, -⟩ := Writer.lift_eq_ok.1 hpush
      obtain ⟨-, rfl⟩ := Lines.push_eq_ok.1 hpush
      exact ⟨rfl, "", trivial, (List.append_nil _).symm⟩
  | converted field conversion optional =>
      obtain ⟨_, _, -, h⟩ := Writer.bind_eq_ok.1 h
      obtain ⟨slots, _, hpush, h⟩ := Writer.bind_eq_ok.1 h
      obtain ⟨rfl, -⟩ := Writer.pure_eq_ok.1 h
      obtain ⟨hpush, -⟩ := Writer.lift_eq_ok.1 hpush
      obtain ⟨-, rfl⟩ := Lines.push_eq_ok.1 hpush
      exact ⟨rfl, "", trivial, (List.append_nil _).symm⟩
  | filled field adapter optional start count =>
      obtain ⟨name, _, hname, h⟩ := Writer.bind_eq_ok.1 h
      obtain ⟨slots, _, hslots, h⟩ := Writer.bind_eq_ok.1 h
      obtain ⟨fill, _, hfill, h⟩ := Writer.bind_eq_ok.1 h
      obtain ⟨rfl, -⟩ := Writer.pure_eq_ok.1 h
      refine ⟨Lines.pushAll_lines (Writer.lift_eq_ok.1 hslots).1, name, ⟨_, _, hname⟩, ?_⟩
      rw [Lines.lines_append, fillCode_lines (Writer.lift_eq_ok.1 hfill).1]
      rfl

/-- Fields add the lines for all their slots, and those of all their
calls. -/
theorem WriteCode.addAll_ok {plan : List FieldWrite}
    (h : plan.foldlM (WriteCode.add target) code u = .ok (code', u')) :
    code'.slots.lines = code.slots.lines ++ plan.flatMap FieldWrite.slotLines ∧
      ∃ names, List.Forall₂ (fun write name => write.CallsAs target name) plan names ∧
        code'.fills.lines = code.fills.lines ++
          (plan.zip names).flatMap fun (write, name) => write.callLines name := by
  induction plan generalizing code u with
  | nil =>
      obtain ⟨rfl, -⟩ := Writer.pure_eq_ok.1 h
      exact ⟨(List.append_nil _).symm, [], .nil, (List.append_nil _).symm⟩
  | cons write plan ih =>
      obtain ⟨code₁, _, hfirst, hrest⟩ := Writer.bind_eq_ok.1 h
      obtain ⟨hslots₁, name, hname, hfills₁⟩ := add_ok hfirst
      obtain ⟨hslots, names, hnames, hfills⟩ := ih hrest
      refine ⟨?_, name :: names, .cons hname hnames, ?_⟩
      · rw [hslots, hslots₁, List.flatMap_cons, List.append_assoc]
      · rw [hfills, hfills₁, List.zip_cons_cons, List.flatMap_cons, List.append_assoc]

-- ============================================================ functions

/-- The lines of a function that makes an array of the given slots and
has further lines fill it. -/
def valuesLines (name model : String) (slots fills : List String) : List String :=
  blockLines ("pub fn " ++ name ++ "(param: &" ++ model ++ ") -> Vec<" ++
      RuntimeItem.value.name ++ "> \x7b")
    (if fills.isEmpty then blockLines "vec![" slots "]"
      else blockLines "let mut array = vec![" slots "];" ++ fills ++ ["array"]) "\x7d"

/-- The function that turns a model into parameters has a line for each
slot of its fields, and calls their adapters after that. -/
theorem valuesFunction_ok {name model : String} {fields : List TableField} {b : Lines}
    (h : valuesFunction target name model fields u = .ok (b, u')) :
    ∃ names,
      List.Forall₂ (fun write name => write.CallsAs target name) (fieldWrites 0 fields) names ∧
      b.lines = valuesLines name model ((fieldWrites 0 fields).flatMap FieldWrite.slotLines)
        (((fieldWrites 0 fields).zip names).flatMap fun (write, name) => write.callLines name) := by
  obtain ⟨value, _, hvalue, h⟩ := Writer.bind_eq_ok.1 h
  obtain ⟨rfl, -⟩ := Writer.item_eq_ok.1 hvalue
  obtain ⟨code, _, hcode, h⟩ := Writer.bind_eq_ok.1 h
  obtain ⟨hslots, names, hnames, hfills⟩ := WriteCode.addAll_ok hcode
  replace hslots : code.slots.lines = (fieldWrites 0 fields).flatMap FieldWrite.slotLines := hslots
  replace hfills : code.fills.lines = ((fieldWrites 0 fields).zip names).flatMap
    fun (write, name) => write.callLines name := hfills
  refine ⟨names, hnames, ?_⟩
  rw [valuesLines, ← hslots, ← hfills]
  by_cases hempty : code.fills.isEmpty = true
  · rw [if_pos hempty] at h
    obtain ⟨body, _, hbody, h⟩ := Writer.bind_eq_ok.1 h
    have hnone : code.fills.lines.isEmpty = true := hempty
    rw [block_lines (Writer.lift_eq_ok.1 h).1, block_lines (Writer.lift_eq_ok.1 hbody).1,
      if_pos hnone]
  · rw [if_neg hempty] at h
    obtain ⟨array, _, harray, h⟩ := Writer.bind_eq_ok.1 h
    obtain ⟨body, _, hbody, h⟩ := Writer.bind_eq_ok.1 h
    obtain ⟨-, rfl⟩ := Lines.push_eq_ok.1 (Writer.lift_eq_ok.1 hbody).1
    have hsome : ¬ code.fills.lines.isEmpty = true := hempty
    rw [block_lines (Writer.lift_eq_ok.1 h).1, if_neg hsome]
    show blockLines _ (array.lines ++ code.fills.lines ++ ["array"]) _ = _
    rw [block_lines (Writer.lift_eq_ok.1 harray).1]

end Emit

end Rowsmith

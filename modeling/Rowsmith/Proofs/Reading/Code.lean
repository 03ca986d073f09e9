/-
The text of the functions that turn a row into a model.

The plan of such a function says how each field is read, and its text says
it again, in the words of another language: a getter is a call that reads
the next column, what is skipped is a number that is added to the place in
the row, and a table is followed by a call of the function of its accessor.
The words are written out here for every entry of a plan
(`FieldRead.lines`), and each entry is found to have these lines in the
function and no others. What is said of a plan is therefore said of the
function, if there is one: a name with a line break in it cannot be
written.

The lines have the names of other types in them. They are the names under
all that the unit brings into scope, and stand there for the types that the
plan means (`FieldRead.CallsAs`).

Main result: `fromRowFunction_lines`.
-/
import Rowsmith.Proofs.Reading.Plans
import Rowsmith.Proofs.Writing.TableCode
import Rowsmith.Proofs.Writing.Names

namespace Rowsmith.Emit

open Text

-- ================================================================ words

/-- The call of a getter. -/
def Getter.text (g : Getter) : String :=
  let column := match g.storage with
    | .boolean => "bool"
    | .int => "i32"
    | .long => "i64"
    | .short => "i16"
    | .byte => "i8"
    | .float => "f32"
    | .double => "f64"
    | .string => "string"
    | .bytes => "bytes"
    | .date => "date"
    | .time => "time"
    | .timestamp => "timestamp"
  (if g.optional then "row.get_opt_" else "row.get_") ++ column ++ "(start)?"

/-- A follow policy. -/
def policyText : FollowPolicy → String
  | .keys => "ReadFollow::NoFollow"
  | .oneLevel => "ReadFollow::FollowOneLevel"
  | .all => "ReadFollow::FollowAll"

/-- The test whether a column is null, given how far it is from the first
column of its value. -/
def nullTest : Nat → String
  | 0 => "row.is_null(*start)"
  | i + 1 => "row.is_null(*start + " ++ toString (i + 1) ++ ")"

/-- Going on as many columns later. -/
def skipText (count : Nat) : String := "*start += " ++ toString count ++ ";"

/-- The converted value of an expression. An enumeration goes by a name. -/
def convertedText (name expr : String) : Conversion → String
  | .provided path _ => path ++ "::to_field(" ++ expr ++ ")"
  | .ordinal _ variants =>
    "[" ++ String.intercalate ", " (variants.map fun v => name ++ "::" ++ v) ++ "][" ++ expr ++
      " as usize]"

/-- Lines that are written between two texts. -/
def between (before : String) (lines : List String) (after : String) : List String :=
  match lines with
  | [] => [before ++ after]
  | [line] => [before ++ line ++ after]
  | first :: rest => (before ++ first) :: rest.dropLast ++ [rest.getLastD "" ++ after]

-- =========================================================== references

namespace ReferenceRead

/-- The type that a reference is made by. -/
def maker (read : ReferenceRead) : String :=
  match read.target.shape with
  | .int => "ForeignInt"
  | .long => "ForeignLong"
  | .object | .general => "ForeignObj"

/-- The reference that is present, given its key. A table that is followed
is read by the function of its accessor, which goes by a name. -/
def presentText (read : ReferenceRead) (arm : ReferenceArm) (accessor key : String) : String :=
  let reference := match arm.entity with
    | some policy => read.maker ++ "::of_entity(" ++ key ++ ", " ++ accessor ++
      "::from_row(row, " ++ policyText policy ++ ", start)?)"
    | none => read.maker ++ "::of_id(" ++ key ++ ")"
  if read.optional then "Some(" ++ reference ++ ")" else reference

/-- The reference that is absent, after what is skipped. -/
def absentLines (read : ReferenceRead) (arm : ReferenceArm) : List String :=
  let absent := if read.optional then "None" else read.maker ++ "::empty()"
  if arm.skip = 0 then [absent ++ ","]
  else blockLines "\x7b" [skipText arm.skip, absent] "\x7d"

/-- What is read of a reference in one arm. -/
def armLines (read : ReferenceRead) (accessor : String) (arm : ReferenceArm) : List String :=
  if read.nullable then
    let given := if read.target.key.isInteger then "Some(id) if id != 0" else "Some(id)"
    let other := if read.target.key.isInteger then "_" else "None"
    blockLines ("match " ++ read.getter.text ++ " \x7b")
      ((given ++ " => " ++ read.presentText arm accessor "id" ++ ",") ::
        between (other ++ " => ") (read.absentLines arm) "") "\x7d"
  else if arm.entity.isSome then
    ["\x7b", "    let id = " ++ read.getter.text ++ ";",
      "    " ++ read.presentText arm accessor "id", "\x7d"]
  else [read.presentText arm accessor read.getter.text]

end ReferenceRead

-- =============================================================== fields

/-- A value that an adapter builds, under the name it goes by. One that may
be absent is if all its columns are null, and then they are skipped. -/
def assembledLines (name : String) (getters : List Getter) (skip : Nat) (optional : Bool) :
    List String :=
  let create := name ++ "::create_instance(" ++ String.intercalate ", " (getters.map Getter.text) ++
    ")"
  if optional then
    ["if " ++ String.intercalate " && " ((List.range getters.length).map nullTest) ++ " \x7b",
      "    " ++ skipText skip,
      "    None",
      "\x7d else \x7b",
      "    Some(" ++ create ++ ")",
      "\x7d"]
  else [create]

namespace FieldRead

/-- The lines that read a field, where the type that is needed for it goes
by a name. -/
def lines (name : String) : FieldRead → List String
  | .column getter => [getter.text]
  | .converted getter conversion =>
    [if getter.optional then
      getter.text ++ ".map(|value| " ++ convertedText name "value" conversion ++ ")"
    else convertedText name getter.text conversion]
  | .assembled adapter getters optional =>
    assembledLines name getters (assembled adapter getters optional).skip optional
  | .reference read =>
    blockLines "match follow \x7b"
      (read.arms.flatMap fun arm =>
        let code := read.armLines name arm
        between (policyText arm.policy ++ " => ") code (if code.length > 1 then "" else ","))
      "\x7d"

/-- How the type is called that is needed to read a field, if one is. -/
def naming (s : Schema) (target : Target) (id : TableId) : FieldRead → Writer String
  | .column _ => pure ""
  | .converted _ (.provided _ _) => pure ""
  | .converted _ (.ordinal type _) => Writer.path (cratePath type)
  | .assembled adapter _ _ => adapterName target adapter
  | .reference read => accessorName s target id read.target

/-- A name stands in a unit for the type that is needed to read a field: an
enumeration, an adapter, or the accessor of the referenced table. -/
def CallsAs (s : Schema) (target : Target) (id : TableId) (uses : Uses) (name : String) :
    FieldRead → Prop
  | .column _ => True
  | .converted _ (.provided _ _) => True
  | .converted _ (.ordinal type _) => uses.StandsFor name (cratePath type)
  | .assembled (.provided path) _ _ => uses.StandsFor name path
  | .assembled (.generated type) _ _ =>
    uses.StandsFor name ((Location.ofAdapter type).fullPath target)
  | .reference read =>
    if read.target.table = id then name = "Self"
    else ∃ t, s.tables[read.target.table]? = some t ∧
      uses.StandsFor name ((Location.ofTable t).fullPath target)

end FieldRead

/-- The lines of the function that reads a row of a table by a plan, in
which the model and what is needed for each field go by names. -/
def fromRowLines (t : Table) (model : String) (plan : List FieldRead) (names : List String) :
    List String :=
  let policy := if t.references.isEmpty then "_follow" else "follow"
  ["pub fn from_row(",
    "    row: &Row,",
    "    " ++ policy ++ ": ReadFollow,",
    "    start: &mut usize,",
    ") -> Result<" ++ model ++ ", RowError> \x7b"] ++
  (blockLines ("Ok(" ++ model ++ " \x7b")
    ((t.fields.zip (plan.zip names)).flatMap fun (f, read, name) =>
      between (ident f.name ++ ": ") (read.lines name) ",")
    "\x7d)").map (Lines.indentLine 1) ++
  ["\x7d"]

-- =============================================================== writing

theorem Getter.code_eq (g : Getter) : g.code = g.text := by
  obtain ⟨storage, optional⟩ := g
  cases storage <;> cases optional <;> rfl

theorem policyText_eq (policy : FollowPolicy) :
    RuntimeItem.readFollow.name ++ "::" ++ policy.variantName = policyText policy := by
  cases policy <;> rfl

theorem nullTest_eq (i : Nat) : "row.is_null(" ++ offset "*start" i ++ ")" = nullTest i := by
  cases i with
  | zero => rfl
  | succ i =>
      unfold offset nullTest
      rw [if_neg i.succ_ne_zero]
      simp only [← String.append_assoc]
      rfl

theorem factoryItem_name (read : ReferenceRead) :
    (factoryItem read.target.shape).name = read.maker := by
  unfold ReferenceRead.maker
  cases read.target.shape <;> rfl

theorem wrapped_lines {before after : String} {expr b : Lines}
    (h : wrapped before expr after = .ok b) : b.lines = between before expr.lines after := by
  unfold wrapped at h
  unfold between
  generalize expr.lines = lines at h ⊢
  rcases lines with _ | ⟨first, _ | ⟨second, rest⟩⟩
  · obtain ⟨-, rfl⟩ := Lines.push_eq_ok.1 h
    rfl
  · obtain ⟨-, rfl⟩ := Lines.push_eq_ok.1 h
    rfl
  · obtain ⟨b₁, hfirst, h⟩ := Attempt.bind_eq_ok.1 h
    obtain ⟨-, rfl⟩ := Lines.push_eq_ok.1 hfirst
    obtain ⟨b₂, hmiddle, hlast⟩ := Attempt.bind_eq_ok.1 h
    obtain ⟨-, rfl⟩ := Lines.push_eq_ok.1 hlast
    show b₂.lines ++ _ = _
    rw [Lines.pushAll_lines hmiddle]
    rfl

theorem absentCode_lines {read : ReferenceRead} {arm : ReferenceArm} {b : Lines}
    (h : absentCode read arm.skip = .ok b) : b.lines = read.absentLines arm := by
  unfold absentCode at h
  unfold ReferenceRead.absentLines
  rw [factoryItem_name] at h
  dsimp only at h ⊢
  by_cases hskip : arm.skip = 0
  · rw [hskip, if_neg (Nat.lt_irrefl 0)] at h
    rw [if_pos hskip]
    obtain ⟨-, rfl⟩ := Lines.push_eq_ok.1 h
    rfl
  · rw [if_pos (Nat.pos_of_ne_zero hskip)] at h
    rw [if_neg hskip]
    obtain ⟨inner, hinner, hblock⟩ := Attempt.bind_eq_ok.1 h
    rw [block_lines hblock, Lines.pushAll_lines hinner]
    rfl

theorem assembledCode_lines {name : String} {getters : List Getter} {optional : Bool} {b : Lines}
    (h : assembledCode name getters optional = .ok b) :
    b.lines = assembledLines name getters getters.length optional := by
  unfold assembledCode at h
  unfold assembledLines
  rw [show Getter.code = Getter.text from funext Getter.code_eq] at h
  simp only [nullTest_eq] at h
  cases optional with
  | true => exact Lines.pushAll_lines h
  | false =>
      obtain ⟨-, rfl⟩ := Lines.push_eq_ok.1 h
      rfl

section

variable {s : Schema} {target : Target} {id : TableId} {u v w : Uses} {b : Lines}

open Writer (Settled)

/-- A loop that adds lines for each of its items adds all of them, if what
they are is told by the names in the end. -/
theorem Writer.Settled.foldlM_lines {γ : Type} {step : Lines → γ → Writer Lines}
    (hsettled : ∀ b c, Settled (step b c)) {l : List γ} {P : γ → List String → Prop}
    (hstep : ∀ c ∈ l, ∀ b u b' v, step b c u = .ok (b', v) → v.GrowsTo w →
      ∃ lines, P c lines ∧ b'.lines = b.lines ++ lines)
    {b' : Lines} (h : l.foldlM step b u = .ok (b', v)) (hgrows : v.GrowsTo w) :
    ∃ each, List.Forall₂ P l each ∧ b'.lines = b.lines ++ each.flatten := by
  induction l generalizing b u with
  | nil =>
      obtain ⟨rfl, -⟩ := pure_eq_ok.1 h
      exact ⟨[], .nil, (List.append_nil _).symm⟩
  | cons c l ih =>
      obtain ⟨hc, hl⟩ := List.forall_mem_cons.1 hstep
      obtain ⟨b₁, u₁, hfirst, hrest⟩ := bind_eq_ok.1 h
      obtain ⟨lines, hlines, hb₁⟩ :=
        hc b u b₁ u₁ hfirst (((foldlM hsettled l b₁).grows hrest).trans hgrows)
      obtain ⟨each, heach, hb'⟩ := ih hl hrest
      refine ⟨lines :: each, .cons hlines heach, ?_⟩
      rw [hb', hb₁, List.flatten_cons, List.append_assoc]

/-- Under the names of a unit, what is needed to read a field is called by a
name that stands for it. -/
theorem FieldRead.callsAs_of_naming (htidy : w.Tidy) {read : FieldRead} {name : String}
    (h : read.naming s target id w = .ok (name, w)) : read.CallsAs s target id w name := by
  cases read with
  | column getter => trivial
  | converted getter conversion =>
      cases conversion with
      | provided path storage => trivial
      | ordinal type variants => exact Uses.standsFor_of_usePath htidy (Settled.path_eq_ok.1 h)
  | assembled adapter getters optional =>
      cases adapter with
      | provided path =>
          unfold naming adapterName at h
          dsimp only at h
          split at h
          · exact Uses.standsFor_of_usePath htidy (Settled.path_eq_ok.1 h)
          · exact Or.inl (Writer.pure_eq_ok.1 h).1
      | generated type => exact Uses.standsFor_of_usePath htidy (Settled.path_eq_ok.1 h)
  | reference read =>
      unfold naming accessorName at h
      unfold CallsAs
      dsimp only at h ⊢
      by_cases hown : read.target.table = id
      · rw [if_pos hown] at h
        rw [if_pos hown]
        exact (Writer.pure_eq_ok.1 h).1
      · rw [if_neg hown] at h
        rw [if_neg hown]
        obtain ⟨t, u₁, htable, h⟩ := Writer.bind_eq_ok.1 h
        obtain ⟨hfound, rfl⟩ := Writer.lift_eq_ok.1 htable
        exact ⟨t, Schema.table_eq_ok.1 hfound,
          Uses.standsFor_of_usePath htidy (Settled.path_eq_ok.1 h)⟩

variable (hgrows : v.GrowsTo w) (htidy : w.Tidy)

include hgrows htidy

/-- A converted value names its enumeration. -/
theorem readConverted_lines {getter : Getter} {conversion : Conversion}
    (h : readCode s target id (.converted getter conversion) u = .ok (b, v)) :
    ∃ name, (FieldRead.converted getter conversion).naming s target id w = .ok (name, w) ∧
      b.lines = (FieldRead.converted getter conversion).lines name := by
  obtain ⟨text, u₁, htext, h⟩ := Writer.bind_eq_ok.1 h
  obtain ⟨hline, rfl⟩ := Writer.lift_eq_ok.1 h
  obtain ⟨-, rfl⟩ := Lines.push_eq_ok.1 hline
  have hwithin := (convertedCode_settled _ _ _).within htext hgrows htidy
  rw [getter.code_eq] at hwithin
  cases conversion with
  | provided path storage =>
      obtain ⟨convert, u₂, hconvert, hwithin⟩ := Writer.bind_eq_ok.1 hwithin
      obtain ⟨rfl, rfl⟩ := Writer.pure_eq_ok.1 hconvert
      obtain ⟨rfl, -⟩ := Writer.pure_eq_ok.1 hwithin
      exact ⟨"", rfl, rfl⟩
  | ordinal type variants =>
      obtain ⟨name, u₂, hname, hwithin⟩ := Writer.bind_eq_ok.1 hwithin
      obtain ⟨convert, u₃, hconvert, hwithin⟩ := Writer.bind_eq_ok.1 hwithin
      obtain ⟨rfl, rfl⟩ := Writer.pure_eq_ok.1 hconvert
      obtain ⟨rfl, rfl⟩ := Writer.pure_eq_ok.1 hwithin
      exact ⟨name, hname, rfl⟩

/-- The reference that is present has the accessor of the table in it if
this is followed. -/
theorem presentCode_eq {read : ReferenceRead} {arm : ReferenceArm} {key text : String}
    (h : presentCode s target id read arm key u = .ok (text, v)) :
    ∃ name, (arm.entity.isSome = true → accessorName s target id read.target w = .ok (name, w)) ∧
      text = read.presentText arm name key := by
  unfold presentCode at h
  unfold ReferenceRead.presentText
  rw [factoryItem_name] at h
  cases hentity : arm.entity with
  | none =>
      rw [hentity] at h
      obtain ⟨reference, u₁, hreference, h⟩ := Writer.bind_eq_ok.1 h
      obtain ⟨rfl, rfl⟩ := Writer.pure_eq_ok.1 hreference
      exact ⟨"", fun hsome => (Bool.noConfusion hsome), (Writer.pure_eq_ok.1 h).1⟩
  | some policy =>
      rw [hentity] at h
      obtain ⟨accessor, u₁, haccessor, h⟩ := Writer.bind_eq_ok.1 h
      obtain ⟨policyType, u₂, hitem, h⟩ := Writer.bind_eq_ok.1 h
      obtain ⟨reference, u₃, hreference, h⟩ := Writer.bind_eq_ok.1 h
      obtain ⟨rfl, rfl⟩ := Writer.pure_eq_ok.1 hreference
      obtain ⟨rfl, rfl⟩ := Writer.pure_eq_ok.1 h
      have hlater := ((Settled.item _).grows hitem).trans hgrows
      obtain ⟨rfl, -⟩ := Writer.item_eq_ok.1 hitem
      refine ⟨accessor, fun _ =>
        (accessorName_settled s target id read.target).within haccessor hlater htidy, ?_⟩
      dsimp only
      rw [← policyText_eq]
      simp only [String.append_assoc]

theorem armCode_lines {read : ReferenceRead} {arm : ReferenceArm}
    (h : armCode s target id read arm u = .ok (b, v)) :
    ∃ name, (arm.entity.isSome = true → accessorName s target id read.target w = .ok (name, w)) ∧
      b.lines = read.armLines name arm := by
  obtain ⟨_, u₁, -, h⟩ := Writer.bind_eq_ok.1 h
  unfold ReferenceRead.armLines
  rw [Getter.code_eq] at h
  by_cases hnullable : read.nullable = true
  · rw [if_pos hnullable] at h
    obtain ⟨absent, u₂, habsent, h⟩ := Writer.bind_eq_ok.1 h
    obtain ⟨text, u₃, hpresent, h⟩ := Writer.bind_eq_ok.1 h
    obtain ⟨arms, u₄, harms, h⟩ := Writer.bind_eq_ok.1 h
    obtain ⟨other, u₅, hother, h⟩ := Writer.bind_eq_ok.1 h
    obtain ⟨hblock, rfl⟩ := Writer.lift_eq_ok.1 h
    obtain ⟨hwrapped, rfl⟩ := Writer.lift_eq_ok.1 hother
    obtain ⟨hline, rfl⟩ := Writer.lift_eq_ok.1 harms
    obtain ⟨-, rfl⟩ := Lines.push_eq_ok.1 hline
    obtain ⟨name, hname, rfl⟩ := presentCode_eq hgrows htidy hpresent
    refine ⟨name, hname, ?_⟩
    rw [if_pos hnullable, block_lines hblock, Lines.lines_append, wrapped_lines hwrapped,
      absentCode_lines (Writer.lift_eq_ok.1 habsent).1]
    rfl
  rw [if_neg hnullable] at h
  by_cases hfollows : arm.entity.isSome = true
  · rw [if_pos hfollows] at h
    obtain ⟨text, u₂, hpresent, h⟩ := Writer.bind_eq_ok.1 h
    obtain ⟨hlines, rfl⟩ := Writer.lift_eq_ok.1 h
    obtain ⟨name, hname, rfl⟩ := presentCode_eq hgrows htidy hpresent
    refine ⟨name, hname, ?_⟩
    rw [if_neg hnullable, if_pos hfollows, Lines.pushAll_lines hlines]
    rfl
  · rw [if_neg hfollows] at h
    obtain ⟨text, u₂, hpresent, h⟩ := Writer.bind_eq_ok.1 h
    obtain ⟨hline, rfl⟩ := Writer.lift_eq_ok.1 h
    obtain ⟨-, rfl⟩ := Lines.push_eq_ok.1 hline
    obtain ⟨name, hname, rfl⟩ := presentCode_eq hgrows htidy hpresent
    refine ⟨name, hname, ?_⟩
    rw [if_neg hnullable, if_neg hfollows]
    rfl

example : (⟨⟨1, .int, .named "i32", .int⟩, true, false, []⟩ : ReferenceRead).armLines "PostTable"
    ⟨.all, some .all, 2⟩ =
      ["match row.get_opt_i32(start)? \x7b",
        "    Some(id) if id != 0 => ForeignInt::of_entity(id, " ++
          "PostTable::from_row(row, ReadFollow::FollowAll, start)?),",
        "    _ => \x7b",
        "        *start += 2;",
        "        ForeignInt::empty()",
        "    \x7d",
        "\x7d"] := by
  decide +kernel

omit hgrows htidy in
/-- An arm that does not follow the reference has no accessor in it. -/
theorem ReferenceRead.armLines_congr (read : ReferenceRead) {arm : ReferenceArm}
    {name name' : String} (h : arm.entity.isSome = true → name = name') :
    read.armLines name arm = read.armLines name' arm := by
  cases hentity : arm.entity with
  | none =>
      unfold armLines presentText
      rw [hentity]
  | some policy => rw [h (by rw [hentity]; rfl)]

/-- A reference is read in an arm for each policy, and in all arms that
follow it the accessor goes by one name. -/
theorem readReference_lines {read : ReferenceRead}
    (hdeep : ∃ arm ∈ read.arms, arm.entity.isSome = true)
    (h : readCode s target id (.reference read) u = .ok (b, v)) :
    ∃ name, accessorName s target id read.target w = .ok (name, w) ∧
      b.lines = (FieldRead.reference read).lines name := by
  obtain ⟨policyType, u₁, hitem, h⟩ := Writer.bind_eq_ok.1 h
  obtain ⟨rfl, rfl⟩ := Writer.item_eq_ok.1 hitem
  obtain ⟨arms, u₂, harms, h⟩ := Writer.bind_eq_ok.1 h
  obtain ⟨hblock, rfl⟩ := Writer.lift_eq_ok.1 h
  have hfound := Settled.foldlM_lines ?settled ?step harms hgrows
    (P := fun arm lines => ∃ name,
      (arm.entity.isSome = true → accessorName s target id read.target w = .ok (name, w)) ∧
      between (policyText arm.policy ++ " => ") (read.armLines name arm)
        (if (read.armLines name arm).length > 1 then "" else ",") = lines)
  case settled =>
    intro arms arm
    refine .bind (armCode_settled s target id read arm) fun code => ?_
    exact .bind (.lift _) fun _ => .pure _
  case step =>
    intro arm _ arms u arms' v h hgrows
    obtain ⟨code, u₃, hcode, h⟩ := Writer.bind_eq_ok.1 h
    obtain ⟨lines, u₄, hlines, h⟩ := Writer.bind_eq_ok.1 h
    obtain ⟨rfl, rfl⟩ := Writer.pure_eq_ok.1 h
    obtain ⟨hwrapped, rfl⟩ := Writer.lift_eq_ok.1 hlines
    obtain ⟨name, hname, hlines⟩ := armCode_lines hgrows htidy hcode
    refine ⟨_, ⟨name, hname, ?_⟩, rfl⟩
    rw [wrapped_lines hwrapped, policyText_eq, ← hlines]
    rfl
  obtain ⟨each, heach, harms⟩ := hfound
  -- the name in one of the arms that follow is that in all of them
  obtain ⟨arm, harm, hfollows⟩ := hdeep
  obtain ⟨_, -, name, hname, -⟩ := Related.exists_mem heach harm
  refine ⟨name, hname hfollows, ?_⟩
  have hsame : (read.arms.map fun arm => between (policyText arm.policy ++ " => ")
      (read.armLines name arm) (if (read.armLines name arm).length > 1 then "" else ",")) =
        each.map fun lines => lines := by
    refine Related.map_eq heach fun arm' lines ⟨name', hname', hlines⟩ => ?_
    rw [read.armLines_congr fun hfollows' => ?_]
    · exact hlines
    · have hcalled := (hname hfollows).symm.trans (hname' hfollows')
      exact (Prod.mk.inj (Except.ok.inj hcalled)).1
  rw [List.map_id'] at hsame
  rw [block_lines hblock, harms, ← hsame]
  rfl

/-- A field of a table is read in the lines for it. -/
theorem readCode_lines {f : TableField} {read : FieldRead} (hread : fieldRead s id f = .ok read)
    (h : readCode s target id read u = .ok (b, v)) :
    ∃ name, read.naming s target id w = .ok (name, w) ∧ b.lines = read.lines name := by
  cases read with
  | column getter =>
      obtain ⟨hline, rfl⟩ := Writer.lift_eq_ok.1 h
      obtain ⟨-, rfl⟩ := Lines.push_eq_ok.1 hline
      rw [getter.code_eq]
      exact ⟨"", rfl, rfl⟩
  | converted getter conversion => exact readConverted_lines hgrows htidy h
  | assembled adapter getters optional =>
      obtain ⟨name, u₁, hname, h⟩ := Writer.bind_eq_ok.1 h
      obtain ⟨hlines, rfl⟩ := Writer.lift_eq_ok.1 h
      have hsettled := adapterName_settled target adapter
      exact ⟨name, hsettled.within hname hgrows htidy, assembledCode_lines hlines⟩
  | reference read => exact readReference_lines hgrows htidy (fieldRead_follows hread) h

example : (FieldRead.assembled (.generated (.named "Point")) [⟨.double, false⟩, ⟨.double, true⟩]
    true).lines "PointAdapter" =
      ["if row.is_null(*start) && row.is_null(*start + 1) \x7b",
        "    *start += 2;",
        "    None",
        "\x7d else \x7b",
        "    Some(PointAdapter::create_instance(row.get_f64(start)?, row.get_opt_f64(start)?))",
        "\x7d"] := by
  decide +kernel

omit hgrows htidy in
/-- The lines of one field after the other are those of a plan. -/
theorem exists_plan {t : Table} {fields : List TableField} {each : List (List String)}
    (h : List.Forall₂ (fun f lines => ∃ read name, fieldRead s t.id f = .ok read ∧
      read.naming s target t.id w = .ok (name, w) ∧
      lines = between (ident f.name ++ ": ") (read.lines name) ",") fields each) :
    ∃ plan names, List.Forall₂ (fun f read => fieldRead s t.id f = .ok read) fields plan ∧
      List.Forall₂ (fun read name => read.naming s target t.id w = .ok (name, w)) plan names ∧
      each.flatten = (fields.zip (plan.zip names)).flatMap fun (f, read, name) =>
        between (ident f.name ++ ": ") (read.lines name) "," := by
  induction h with
  | nil => exact ⟨[], [], .nil, .nil, rfl⟩
  | cons hfield _ ih =>
      obtain ⟨read, name, hread, hname, rfl⟩ := hfield
      obtain ⟨plan, names, hplan, hnames, hlines⟩ := ih
      refine ⟨read :: plan, name :: names, .cons hread hplan, .cons hname hnames, ?_⟩
      rw [List.flatten_cons, hlines]
      rfl

omit hgrows htidy in
/-- A field has its entry in a plan, which has its name. -/
theorem exists_entry {t : Table} {fields : List TableField} {plan : List FieldRead}
    {names : List String}
    (hplan : List.Forall₂ (fun f read => fieldRead s t.id f = .ok read) fields plan)
    (hnames : List.Forall₂ (fun read name => read.naming s target t.id w = .ok (name, w)) plan names)
    {f : TableField} (hf : f ∈ fields) :
    ∃ read name, (f, read, name) ∈ fields.zip (plan.zip names) ∧ fieldRead s t.id f = .ok read ∧
      read.naming s target t.id w = .ok (name, w) := by
  induction hplan generalizing names with
  | nil => cases hf
  | @cons f' read fields plan hread _ ih =>
      cases hnames with
      | @cons _ name _ names hname hnames =>
          rcases List.mem_cons.1 hf with rfl | hf
          · exact ⟨read, name, List.mem_cons_self, hread, hname⟩
          · obtain ⟨read', name', hentry, hread', hname'⟩ := ih hnames hf
            exact ⟨read', name', List.mem_cons_of_mem _ hentry, hread', hname'⟩

/-- The function that reads a row has for each field the lines for its entry
in the plan. -/
theorem fromRowFunction_lines {t : Table} {model : String}
    (h : fromRowFunction s target t model u = .ok (b, v)) :
    ∃ plan names, readPlan s t = .ok plan ∧
      List.Forall₂ (fun read name => read.naming s target t.id w = .ok (name, w)) plan names ∧
      b.lines = fromRowLines t model plan names := by
  obtain ⟨row, u₁, hrow, h⟩ := Writer.bind_eq_ok.1 h
  obtain ⟨policyType, u₂, hpolicy, h⟩ := Writer.bind_eq_ok.1 h
  obtain ⟨rowError, u₃, herror, h⟩ := Writer.bind_eq_ok.1 h
  obtain ⟨fields, u₄, hfields, h⟩ := Writer.bind_eq_ok.1 h
  obtain ⟨literal, u₅, hliteral, h⟩ := Writer.bind_eq_ok.1 h
  obtain ⟨signature, u₆, hsignature, h⟩ := Writer.bind_eq_ok.1 h
  obtain ⟨hpush, rfl⟩ := Writer.lift_eq_ok.1 h
  obtain ⟨hpushAll, rfl⟩ := Writer.lift_eq_ok.1 hsignature
  obtain ⟨hblock, rfl⟩ := Writer.lift_eq_ok.1 hliteral
  obtain ⟨rfl, -⟩ := Writer.item_eq_ok.1 hrow
  obtain ⟨rfl, -⟩ := Writer.item_eq_ok.1 hpolicy
  obtain ⟨rfl, -⟩ := Writer.item_eq_ok.1 herror
  have hfound := Settled.foldlM_lines ?settled ?step hfields hgrows
    (P := fun f lines => ∃ read name, fieldRead s t.id f = .ok read ∧
      read.naming s target t.id w = .ok (name, w) ∧
      lines = between (ident f.name ++ ": ") (read.lines name) ",")
  case settled =>
    intro fields f
    refine .bind (.lift _) fun read => .bind (readCode_settled s target t.id read) fun code => ?_
    exact .bind (.lift _) fun _ => .pure _
  case step =>
    intro f _ fields u fields' v h hgrows
    obtain ⟨read, u₇, hread, h⟩ := Writer.bind_eq_ok.1 h
    obtain ⟨code, u₈, hcode, h⟩ := Writer.bind_eq_ok.1 h
    obtain ⟨lines, u₉, hlines, h⟩ := Writer.bind_eq_ok.1 h
    obtain ⟨rfl, rfl⟩ := Writer.pure_eq_ok.1 h
    obtain ⟨hwrapped, rfl⟩ := Writer.lift_eq_ok.1 hlines
    obtain ⟨hread, -⟩ := Writer.lift_eq_ok.1 hread
    obtain ⟨name, hname, hlines⟩ := readCode_lines hgrows htidy hread hcode
    refine ⟨_, ⟨read, name, hread, hname, ?_⟩, rfl⟩
    rw [wrapped_lines hwrapped, hlines]
  obtain ⟨each, heach, hlines⟩ := hfound
  obtain ⟨plan, names, hplan, hnames, heach⟩ := exists_plan heach
  refine ⟨plan, names, Attempt.mapM_eq_ok_iff.2 hplan, hnames, ?_⟩
  obtain ⟨-, rfl⟩ := Lines.push_eq_ok.1 hpush
  show signature.lines ++ literal.lines.map (Lines.indentLine 1) ++ ["\x7d"] = _
  rw [Lines.pushAll_lines hpushAll, block_lines hblock, hlines, heach]
  have hfollow (policy : String) : "    " ++ policy ++ ": " ++ RuntimeItem.readFollow.name ++ "," =
      "    " ++ policy ++ ": ReadFollow," := by
    rw [String.append_assoc, String.append_assoc]
    rfl
  have hresult : ") -> Result<" ++ model ++ ", " ++ RuntimeItem.rowError.name ++ "> \x7b" =
      ") -> Result<" ++ model ++ ", RowError> \x7b" := by
    rw [String.append_assoc, String.append_assoc]
    rfl
  rw [hfollow, hresult]
  rfl

end

-- ================================================================ files

/-- A file has the function that reads rows of a table by a plan. The model
and the types that are needed for its fields go by names that stand for
them. -/
def SourceFile.ReadsBy (file : SourceFile) (s : Schema) (target : Target) (t : Table)
    (plan : List FieldRead) : Prop :=
  ∃ uses model names constants functions before after,
    file.content = String.intercalate "\n" (unitLines t uses constants functions) ++ "\n" ∧
    unitLines t uses constants functions =
      before ++ (fromRowLines t model plan names).map (Lines.indentLine 1) ++ after ∧
    uses.StandsFor model (cratePath t.model) ∧
    List.Forall₂ (fun read name => read.CallsAs s target t.id uses name) plan names

/-- The unit of a table reads its rows by the plan of the table. -/
theorem tableUnit_readsBy {s : Schema} {target : Target} {t : Table} {file : SourceFile}
    {plan : List FieldRead} (h : tableUnit s target t = .ok file)
    (hplan : readPlan s t = .ok plan) : file.ReadsBy s target t plan := by
  obtain ⟨model, u, constants, functions, uses, hmodel, -, hfunctions, hcontent⟩ :=
    tableUnit_lines h
  have hsettled := tableFunctions_settled s target t model
  have htidy := hsettled.tidy hfunctions
    ((Writer.Settled.path _).tidy hmodel (Uses.tidy_start _ _))
  have hmodel := (Writer.Settled.path _).within hmodel (hsettled.grows hfunctions) htidy
  obtain ⟨-, fromRow, u₁, hfromRow, hmem⟩ := tableFunctions_include hfunctions
  obtain ⟨plan', names, hplan', hnames, hlines⟩ := fromRowFunction_lines (.refl _) htidy hfromRow
  obtain rfl := Except.ok.inj (hplan.symm.trans hplan')
  obtain ⟨before, after, hunit⟩ := function_infix hmem
  rw [hlines] at hunit
  exact ⟨uses, model, names, constants, functions, before, after, hcontent, hunit,
    Uses.standsFor_of_usePath htidy (Writer.Settled.path_eq_ok.1 hmodel),
    hnames.imp fun read name => FieldRead.callsAs_of_naming htidy⟩

end Rowsmith.Emit

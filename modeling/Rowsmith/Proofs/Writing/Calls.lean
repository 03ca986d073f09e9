/-
The calls of accessors and adapters in the text of a unit.

The functions that read a row call the accessor of each table to which a
reference is followed, and those that read, build and write call the
adapter of each nested structure. Here each of these calls is found in the
lines of its function, with the name by which it calls. A name is not the
one that was known when the line was written but the one under all names
of the unit, which is the same since writing is settled.

# Main results

`fromRowFunction_names`, `fromRowFunction_creates` and
`valuesFunction_names` for tables, `createInstanceFunction_names` and
`fillValuesFunction_names` for structures.
-/
import Rowsmith.Proofs.Reading.Code
import Rowsmith.Proofs.Writing.AdapterCode

namespace Rowsmith.Emit

open Text

-- ============================================================== mentions

/-- A place in a line where an expression may begin: at the front, or after a
space or an opening parenthesis. -/
def Opens (before : List Char) : Prop :=
  ∀ c, before.getLast? = some c → c = ' ' ∨ c = '('

theorem Opens.append {before more : List Char} (h : Opens more) (hmore : more ≠ []) :
    Opens (before ++ more) := by
  intro c hc
  rw [List.getLast?_append_of_ne_nil _ hmore] at hc
  exact h c hc

theorem opens_of_getLast? {before : List Char} {c : Char} (h : before.getLast? = some c)
    (hc : c = ' ' ∨ c = '(') : Opens before := by
  intro d hd
  rw [h] at hd
  exact Option.some.inj hd ▸ hc

/-- An expression may follow a text that ends in a space. -/
theorem opens_space {text : String} (h : text.toList.getLast? = some ' ') (before : String) :
    Opens (before ++ text).toList := by
  refine opens_of_getLast? ?_ (Or.inl rfl)
  rw [String.toList_append, List.getLast?_append, h]
  rfl

theorem opens_indentation (n : Nat) : Opens (indentation n).toList := by
  intro c hc
  unfold indentation at hc
  rw [String.toList_ofList] at hc
  exact Or.inl (List.eq_of_mem_replicate (List.mem_of_getLast? hc))

/-- A line has a text in it where an expression may begin. -/
def HasText (line text : String) : Prop :=
  ∃ before after, line.toList = before ++ (text.toList ++ after) ∧ Opens before

/-- One of several lines has a text in it. -/
def Mentions (lines : List String) (text : String) : Prop :=
  ∃ line ∈ lines, HasText line text

namespace HasText

variable {line text : String}

theorem refl (text : String) : HasText text text :=
  ⟨[], [], by simp, fun _ h => nomatch h⟩

/-- A line keeps its text when something is written after it. -/
theorem before (h : HasText line text) (after : String) : HasText (line ++ after) text := by
  obtain ⟨front, rest, hline, hopens⟩ := h
  refine ⟨front, rest ++ after.toList, ?_, hopens⟩
  rw [String.toList_append, hline]
  simp

/-- A line keeps its text when something is written before it after which an
expression may begin. -/
theorem after (h : HasText line text) {opening : String} (hopening : Opens opening.toList) :
    HasText (opening ++ line) text := by
  obtain ⟨front, rest, hline, hopens⟩ := h
  refine ⟨opening.toList ++ front, rest, ?_, ?_⟩
  · rw [String.toList_append, hline, List.append_assoc]
  · by_cases hfront : front = []
    · rw [hfront, List.append_nil]
      exact hopening
    · exact hopens.append hfront

end HasText

namespace Mentions

variable {lines lines' : List String} {line text : String}

theorem mono (h : Mentions lines text) (hsub : lines ⊆ lines') : Mentions lines' text := by
  obtain ⟨line, hline, htext⟩ := h
  exact ⟨line, hsub hline, htext⟩

theorem singleton (h : HasText line text) : Mentions [line] text :=
  ⟨line, List.mem_singleton_self _, h⟩

theorem flatMap {α : Type} {l : List α} {a : α} (ha : a ∈ l) {f : α → List String}
    (h : Mentions (f a) text) : Mentions (l.flatMap f) text :=
  h.mono fun _ hline => List.mem_flatMap.2 ⟨a, ha, hline⟩

theorem indent (h : Mentions lines text) (n : Nat) :
    Mentions (lines.map (Lines.indentLine n)) text := by
  obtain ⟨line, hline, htext⟩ := h
  refine ⟨_, List.mem_map_of_mem hline, ?_⟩
  unfold Lines.indentLine
  by_cases hempty : line.isEmpty = true
  · rw [if_pos hempty]
    exact htext
  · rw [if_neg hempty]
    exact htext.after (opens_indentation n)

theorem blockLines (h : Mentions lines text) (opening closing : String) :
    Mentions (blockLines opening lines closing) text := by
  refine (h.indent 1).mono fun line hline => ?_
  exact List.mem_append_left _ (List.mem_cons_of_mem _ hline)

/-- What is said in lines is said where they are written between two
texts. -/
theorem between (h : Mentions lines text) {opening : String} (hopening : Opens opening.toList)
    (closing : String) : Mentions (between opening lines closing) text := by
  obtain ⟨line, hline, htext⟩ := h
  unfold Emit.between
  split
  case h_1 => cases hline
  case h_2 only =>
    obtain rfl := List.mem_singleton.1 hline
    exact singleton ((htext.after hopening).before _)
  case h_3 first rest hmany =>
    rcases List.mem_cons.1 hline with rfl | hrest
    · exact (singleton (htext.after hopening)).mono (List.subset_append_left _ _)
    · rcases List.eq_nil_or_concat rest with rfl | ⟨inner, last, rfl⟩
      · cases hrest
      rw [List.concat_eq_append] at hrest ⊢
      rw [List.dropLast_concat, List.getLastD_concat]
      rcases List.mem_append.1 hrest with hinner | hlast
      · exact ⟨line, List.mem_append_left _ (List.mem_cons_of_mem _ hinner), htext⟩
      · obtain rfl := List.mem_singleton.1 hlast
        exact (singleton (htext.before closing)).mono (List.subset_append_right _ _)

end Mentions

-- ================================================================= calls

/-- How a unit calls the accessor of a table to read a row of it. -/
def fromRowCall (accessor : String) (policy : FollowPolicy) : String :=
  accessor ++ "::from_row(row, " ++ policyText policy ++ ", start)"

/-- How a unit calls an adapter to build a value. -/
def createCall (adapter : String) : String := adapter ++ "::create_instance("

/-- How a unit calls an adapter to write a value. -/
def fillCall (adapter : String) : String := adapter ++ "::fill_values("

theorem hasText_createCall (adapter arguments : String) :
    HasText (adapter ++ "::create_instance(" ++ arguments ++ ")") (createCall adapter) :=
  ((HasText.refl _).before _).before _

/-- The line of a field of a built value has the expression in it. -/
theorem mentions_fieldLine (head : PartHead) {text expr : String} (h : HasText expr text) :
    Mentions [fieldLine head expr] text := by
  refine .singleton ?_
  unfold fieldLine
  split
  case isTrue hname =>
    rw [← hname]
    exact h.before _
  case isFalse =>
    have hopens : Opens (ident head.name ++ ": ").toList := opens_space rfl _
    exact (h.after hopens).before _

theorem mentions_assembledLines (adapter : String) (getters : List Getter) (skip : Nat)
    (optional : Bool) :
    Mentions (assembledLines adapter getters skip optional) (createCall adapter) := by
  have hcall := hasText_createCall adapter (String.intercalate ", " (getters.map Getter.text))
  unfold assembledLines
  cases optional with
  | true =>
      have hopens : Opens "    Some(".toList := opens_of_getLast? rfl (Or.inr rfl)
      refine ⟨_, ?_, (hcall.after hopens).before ")"⟩
      simp
  | false => exact Mentions.singleton hcall

theorem mentions_fillLines (adapter place array slot : String) (optional : Bool) :
    Mentions (fillLines adapter place array slot optional) (fillCall adapter) := by
  have hvalue : "::fill_values(" ++ "value, " = "::fill_values(value, " := by rfl
  have hplace : "::fill_values(" ++ "&" = "::fill_values(&" := by rfl
  unfold fillLines fillCall
  cases optional with
  | true =>
      refine Mentions.blockLines (.singleton ?_) _ _
      rw [← hvalue, ← String.append_assoc]
      exact (((((HasText.refl _).before _).before _).before _).before _).before _
  | false =>
      refine .singleton ?_
      rw [← hplace, ← String.append_assoc]
      exact (((((((HasText.refl _).before _).before _).before _).before _).before _).before _).before _

theorem exists_fieldWrite_mem {f : TableField} {fields : List TableField} (hf : f ∈ fields)
    (start : Nat) : ∃ start', fieldWrite start' f ∈ fieldWrites start fields := by
  induction fields generalizing start with
  | nil => cases hf
  | cons f' fields ih =>
      rcases List.mem_cons.1 hf with rfl | hf
      · exact ⟨start, List.mem_cons_self⟩
      · obtain ⟨start', hwrite⟩ := ih hf (start + f'.columnCount)
        exact ⟨start', List.mem_cons_of_mem _ hwrite⟩

theorem exists_partBuild_mem {part : Part} {parts : List Part} (hpart : part ∈ parts)
    (params : List Param) : ∃ own, (part.head, partBuild own part) ∈ partBuilds params parts := by
  induction parts generalizing params with
  | nil => cases hpart
  | cons part' parts ih =>
      rcases List.mem_cons.1 hpart with rfl | hpart
      · exact ⟨_, List.mem_cons_self⟩
      · obtain ⟨own, hbuild⟩ := ih hpart (params.drop part'.columnCount)
        exact ⟨own, List.mem_cons_of_mem _ hbuild⟩

theorem exists_partWrite_mem {part : Part} {parts : List Part} (hpart : part ∈ parts)
    (start : Nat) : ∃ start', (part.head, partWrite start' part) ∈ partWrites start parts := by
  induction parts generalizing start with
  | nil => cases hpart
  | cons part' parts ih =>
      rcases List.mem_cons.1 hpart with rfl | hpart
      · exact ⟨start, List.mem_cons_self⟩
      · obtain ⟨start', hwrite⟩ := ih hpart (start + part'.columnCount)
        exact ⟨start', List.mem_cons_of_mem _ hwrite⟩

-- ============================================================== reading

section

variable {read : ReferenceRead} {arm : ReferenceArm} {policy : FollowPolicy}

theorem hasText_presentText (hentity : arm.entity = some policy) (accessor key : String) :
    HasText (read.presentText arm accessor key) (fromRowCall accessor policy) := by
  have hreference : HasText (read.maker ++ "::of_entity(" ++ key ++ ", " ++
      fromRowCall accessor policy ++ "?)") (fromRowCall accessor policy) :=
    ((HasText.refl _).after (opens_space rfl _)).before _
  have hsplit : ", start)" ++ "?)" = ", start)?)" := by rfl
  unfold ReferenceRead.presentText
  rw [hentity]
  unfold fromRowCall at hreference ⊢
  simp only [String.append_assoc, hsplit] at hreference ⊢
  split
  · have hopens : Opens "Some(".toList := opens_of_getLast? rfl (Or.inr rfl)
    have hsome := (hreference.after hopens).before ")"
    simpa only [String.append_assoc] using hsome
  · exact hreference

/-- Where a reference is followed, the accessor of the referenced table is
called. -/
theorem mentions_armLines (hentity : arm.entity = some policy) (accessor : String) :
    Mentions (read.armLines accessor arm) (fromRowCall accessor policy) := by
  have htext := @hasText_presentText read _ _ hentity accessor "id"
  have hfollows : arm.entity.isSome = true := by
    rw [hentity]
    rfl
  unfold ReferenceRead.armLines
  rw [if_pos hfollows]
  split
  · refine Mentions.blockLines ?_ _ _
    refine ⟨_, List.mem_cons_self, ?_⟩
    exact (htext.after (opens_space rfl _)).before _
  · have hopens : Opens "    ".toList := opens_of_getLast? rfl (Or.inl rfl)
    refine ⟨_, ?_, htext.after hopens⟩
    simp

/-- A reference is read in one arm for each policy, and those that follow it
call the accessor of the referenced table. -/
theorem mentions_referenceLines (harm : arm ∈ read.arms) (hentity : arm.entity = some policy)
    (accessor : String) :
    Mentions ((FieldRead.reference read).lines accessor) (fromRowCall accessor policy) := by
  have hopens : Opens (policyText arm.policy ++ " => ").toList := opens_space rfl _
  refine Mentions.blockLines (.flatMap harm ?_) _ _
  exact (mentions_armLines hentity accessor).between hopens _

end

section

variable {s : Schema} {target : Target} {u v w : Uses} {b : Lines}
  (hgrows : v.GrowsTo w) (htidy : w.Tidy)

include hgrows htidy

/-- The function that reads a row has the lines for each field in it. -/
theorem fromRowFunction_reads {t : Table} {model : String} {f : TableField} (hf : f ∈ t.fields)
    (h : fromRowFunction s target t model u = .ok (b, v)) :
    ∃ read name, fieldRead s t.id f = .ok read ∧ read.naming s target t.id w = .ok (name, w) ∧
      ∀ text, Mentions (read.lines name) text → Mentions b.lines text := by
  obtain ⟨plan, names, hplan, hnames, hlines⟩ := fromRowFunction_lines hgrows htidy h
  obtain ⟨read, name, hentry, hread, hname⟩ :=
    exists_entry (Attempt.mapM_eq_ok_iff.1 hplan) hnames hf
  refine ⟨read, name, hread, hname, fun text htext => ?_⟩
  rw [hlines]
  unfold fromRowLines
  refine Mentions.mono (Mentions.indent (Mentions.blockLines ?_ _ _) 1) fun line hline =>
    List.mem_append_left _ (List.mem_append_right _ hline)
  have hopens : Opens (ident f.name ++ ": ").toList := opens_space rfl _
  exact .flatMap hentry (htext.between hopens _)

/-- The adapter of a nested structure is called to write a field. -/
theorem valuesFunction_names {name model : String} {fields : List TableField} {f : TableField}
    (hf : f ∈ fields) {x : Structure} (hkind : f.kind = .nested x)
    (h : valuesFunction target name model fields u = .ok (b, v)) :
    ∃ adapter, adapterName target (.generated x.type) w = .ok (adapter, w) ∧
      Mentions b.lines (fillCall adapter) := by
  obtain ⟨value, u₁, -, h⟩ := Writer.bind_eq_ok.1 h
  obtain ⟨code, u₂, hcode, h⟩ := Writer.bind_eq_ok.1 h
  obtain ⟨start, hwrite⟩ := exists_fieldWrite_mem hf 0
  unfold fieldWrite at hwrite
  rw [hkind] at hwrite
  have hfound := Writer.Settled.foldlM_mem (fun code => code.fills.lines)
    (WriteCode.add_settled target) ?keep hwrite hcode
  case keep =>
    intro code write u code' v h
    obtain ⟨-, name, -, hfills⟩ := WriteCode.add_ok h
    rw [hfills]
    exact List.subset_append_left _ _
  obtain ⟨m, m', u₃, u₄, hstep, hgrowsStep, hsub⟩ := hfound
  obtain ⟨adapter, u₅, hadapter, hstep⟩ := Writer.bind_eq_ok.1 hstep
  obtain ⟨slots, u₆, hslots, hstep⟩ := Writer.bind_eq_ok.1 hstep
  obtain ⟨fill, u₇, hfill, hstep⟩ := Writer.bind_eq_ok.1 hstep
  obtain ⟨rfl, rfl⟩ := Writer.pure_eq_ok.1 hstep
  obtain ⟨hlines, rfl⟩ := Writer.lift_eq_ok.1 hfill
  obtain ⟨-, rfl⟩ := Writer.lift_eq_ok.1 hslots
  have hmentions : Mentions code.fills.lines (fillCall adapter) := by
    have hcall : Mentions fill.lines (fillCall adapter) := by
      rw [fillCode_lines hlines]
      exact mentions_fillLines ..
    exact hcall.mono fun line hline => hsub (List.mem_append_right _ hline)
  have hsettled := adapterName_settled target (.generated x.type)
  split at h
  case isTrue hempty =>
    obtain ⟨line, hline, -⟩ := hmentions
    rw [List.isEmpty_iff.1 hempty] at hline
    cases hline
  case isFalse =>
    obtain ⟨array, u₈, harray, h⟩ := Writer.bind_eq_ok.1 h
    obtain ⟨body, u₉, hbody, h⟩ := Writer.bind_eq_ok.1 h
    obtain ⟨hblock, rfl⟩ := Writer.lift_eq_ok.1 h
    obtain ⟨hpush, rfl⟩ := Writer.lift_eq_ok.1 hbody
    obtain ⟨-, rfl⟩ := Writer.lift_eq_ok.1 harray
    obtain ⟨-, rfl⟩ := Lines.push_eq_ok.1 hpush
    refine ⟨adapter, hsettled.within hadapter (hgrowsStep.trans hgrows) htidy, ?_⟩
    rw [block_lines hblock]
    refine Mentions.blockLines (hmentions.mono fun line hline => ?_) _ _
    exact List.mem_append_left _ (List.mem_append_right _ hline)

variable {t : Table} {model : String} {f : TableField}

/-- Wherever a reference is followed, the accessor of the referenced table
goes by the same name. -/
theorem fromRowFunction_names (hf : f ∈ t.fields) {r : Reference} (hkind : f.kind = .reference r)
    (h : fromRowFunction s target t model u = .ok (b, v)) :
    ∃ accessor, accessorName s target t.id r w = .ok (accessor, w) ∧
      ∀ policy, (s.effective t.id policy).follows = true →
        Mentions b.lines (fromRowCall accessor (s.effective t.id policy).next) := by
  obtain ⟨read, accessor, hread, haccessor, hkept⟩ := fromRowFunction_reads hgrows htidy hf h
  unfold fieldRead at hread
  rw [hkind] at hread
  obtain rfl := Except.ok.inj hread
  refine ⟨accessor, haccessor, fun policy hfollows => hkept _ ?_⟩
  have harm : referenceArm s t.id f r policy ∈
      FollowPolicy.policies.map (referenceArm s t.id f r) :=
    List.mem_map_of_mem (by cases policy with | _ => decide)
  exact mentions_referenceLines harm (if_pos hfollows) accessor

/-- The adapter of a nested structure is called to read a field. -/
theorem fromRowFunction_creates (hf : f ∈ t.fields) {x : Structure} (hkind : f.kind = .nested x)
    (h : fromRowFunction s target t model u = .ok (b, v)) :
    ∃ adapter, adapterName target (.generated x.type) w = .ok (adapter, w) ∧
      Mentions b.lines (createCall adapter) := by
  obtain ⟨read, adapter, hread, hadapter, hkept⟩ := fromRowFunction_reads hgrows htidy hf h
  unfold fieldRead at hread
  rw [hkind] at hread
  obtain rfl := Except.ok.inj hread
  exact ⟨adapter, hadapter, hkept _ (mentions_assembledLines adapter _ _ _)⟩

theorem createInstanceFunction_names {x : Structure} {type : String} {head : PartHead}
    {nested : TypeExpr} {parts : List Part} (hpart : .nested head nested parts ∈ x.parts)
    (h : createInstanceFunction target x type u = .ok (b, v)) :
    ∃ adapter, adapterName target (.generated nested) w = .ok (adapter, w) ∧
      Mentions b.lines (createCall adapter) := by
  obtain ⟨fields, u₁, hfields, h⟩ := Writer.bind_eq_ok.1 h
  obtain ⟨signature, u₂, hsignature, h⟩ := Writer.bind_eq_ok.1 h
  obtain ⟨literal, u₃, hliteral, h⟩ := Writer.bind_eq_ok.1 h
  obtain ⟨hpush, rfl⟩ := Writer.lift_eq_ok.1 h
  obtain ⟨hblock, rfl⟩ := Writer.lift_eq_ok.1 hliteral
  obtain ⟨-, rfl⟩ := Writer.lift_eq_ok.1 hsignature
  obtain ⟨own, hbuild⟩ := exists_partBuild_mem hpart (structureParams x)
  have hfound := Writer.Settled.foldlM_mem Lines.lines ?settled ?keep hbuild hfields
  case settled =>
    intro fields entry
    exact .bind (buildCode_settled target entry.2) fun _ => .lift _
  case keep =>
    intro fields entry u fields' v h
    obtain ⟨value, u₄, -, h⟩ := Writer.bind_eq_ok.1 h
    obtain ⟨-, rfl⟩ := Lines.push_eq_ok.1 (Writer.lift_eq_ok.1 h).1
    exact List.subset_append_left _ _
  obtain ⟨m, m', u₄, u₅, hstep, hgrowsStep, hsub⟩ := hfound
  obtain ⟨value, u₆, hvalue, hstep⟩ := Writer.bind_eq_ok.1 hstep
  obtain ⟨hline, rfl⟩ := Writer.lift_eq_ok.1 hstep
  obtain ⟨adapter, u₇, hadapter, hvalue⟩ := Writer.bind_eq_ok.1 hvalue
  obtain ⟨rfl, rfl⟩ := Writer.pure_eq_ok.1 hvalue
  have hsettled := adapterName_settled target (.generated nested)
  refine ⟨adapter, hsettled.within hadapter (hgrowsStep.trans hgrows) htidy, ?_⟩
  obtain ⟨-, rfl⟩ := Lines.push_eq_ok.1 hpush
  obtain ⟨-, rfl⟩ := Lines.push_eq_ok.1 hline
  have hcall := mentions_fieldLine head (hasText_createCall adapter
    (commaJoin (own.map fun q => ident q.name)))
  have hfieldsCall := hcall.mono fun line hline => hsub (List.mem_append_right m.lines hline)
  have hliteralCall : Mentions literal.lines (createCall adapter) := by
    rw [block_lines hblock]
    exact hfieldsCall.blockLines _ _
  refine (hliteralCall.indent 1).mono fun line hline => ?_
  exact List.mem_append_left _ (List.mem_append_right _ hline)

theorem fillValuesFunction_names {x : Structure} {type : String} {head : PartHead}
    {nested : TypeExpr} {parts : List Part} (hpart : .nested head nested parts ∈ x.parts)
    (h : fillValuesFunction target x type u = .ok (b, v)) :
    ∃ adapter, adapterName target (.generated nested) w = .ok (adapter, w) ∧
      Mentions b.lines (fillCall adapter) := by
  obtain ⟨value, u₁, -, h⟩ := Writer.bind_eq_ok.1 h
  obtain ⟨body, u₂, hbody, h⟩ := Writer.bind_eq_ok.1 h
  obtain ⟨hblock, rfl⟩ := Writer.lift_eq_ok.1 h
  obtain ⟨start, hwrite⟩ := exists_partWrite_mem hpart 0
  have hfound := Writer.Settled.foldlM_mem Lines.lines ?settled ?keep hwrite hbody
  case settled =>
    intro body entry
    exact .bind (writeCode_settled target entry.1 entry.2) fun _ => .pure _
  case keep =>
    intro body entry u body' v h
    obtain ⟨code, u₃, -, h⟩ := Writer.bind_eq_ok.1 h
    obtain ⟨rfl, -⟩ := Writer.pure_eq_ok.1 h
    exact List.subset_append_left _ _
  obtain ⟨m, m', u₃, u₄, hstep, hgrowsStep, hsub⟩ := hfound
  obtain ⟨code, u₅, hcode, hstep⟩ := Writer.bind_eq_ok.1 hstep
  obtain ⟨rfl, rfl⟩ := Writer.pure_eq_ok.1 hstep
  obtain ⟨adapter, u₆, hadapter, hcode⟩ := Writer.bind_eq_ok.1 hcode
  obtain ⟨hlines, rfl⟩ := Writer.lift_eq_ok.1 hcode
  have hsettled := adapterName_settled target (.generated nested)
  refine ⟨adapter, hsettled.within hadapter (hgrowsStep.trans hgrows) htidy, ?_⟩
  have hcall : Mentions code.lines (fillCall adapter) := by
    rw [fillCode_lines hlines]
    exact mentions_fillLines ..
  rw [block_lines hblock]
  refine (hcall.mono fun line hline => hsub ?_).blockLines _ _
  exact List.mem_append_right _ hline

end

end Rowsmith.Emit

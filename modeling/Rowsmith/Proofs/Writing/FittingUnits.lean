/-
When a unit can be written. A unit is its declarations and the type with its
constants and functions, and it can be written exactly if each of these can,
and if the paths of the types it names are single lines (`unit_isOk_iff`).

What is quoted fits on a line in any case, so of the constants of a table
only their statements matter (`tableConstants_fits`). For the functions see
the steps they are made of.
-/
import Rowsmith.Proofs.Sql.Rendering
import Rowsmith.Proofs.Writing.FittingCode

namespace Rowsmith

open Text

namespace Sql

variable {s : Schema} {flavor : Flavor} {statement : Statement}

/-- What can be written is written on single lines. -/
theorem render_single {b : Lines} (h : render s flavor statement = .ok b) : b.Single := by
  obtain ⟨lines, -, hpush⟩ := Attempt.bind_eq_ok.1 h
  exact (Emit.Fits.pushAll .empty lines).single hpush

theorem render_self (s : Schema) (flavor : Flavor) (statement : Statement) :
    Emit.Fits (render s flavor statement) (∃ b, render s flavor statement = .ok b) :=
  ⟨render_single, Iff.rfl⟩

end Sql

namespace Emit

attribute [local simp] isSingleLine_append isSingleLine_repr isSingleLine_quoted

variable {s : Schema} {target : Target} {t : Table}

-- ============================================================ constants

/-- Statements that are put on one line can each be written. -/
theorem statementText_isOk_iff {statements : List Sql.Statement} :
    (∃ text, statementText s statements = .ok text) ↔
      ∀ statement ∈ statements, ∃ b, Sql.render s .sqlite statement = .ok b := by
  constructor
  · intro ⟨text, h⟩ statement hstatement
    obtain ⟨b, hb, -⟩ := Attempt.bind_eq_ok.1 h
    obtain ⟨bs, hbs, -⟩ := Attempt.bind_eq_ok.1 hb
    obtain ⟨b, -, hb⟩ := Related.exists_mem (Attempt.mapM_eq_ok_iff.1 hbs) hstatement
    exact ⟨b, hb⟩
  · intro h
    obtain ⟨bs, hbs⟩ := Attempt.mapM_succeeds h
    exact ⟨_, Attempt.bind_eq_ok.2 ⟨_, Attempt.bind_eq_ok.2 ⟨bs, hbs, rfl⟩, rfl⟩⟩

/-- All statements of a list can be written in the flavor that constants are
written in. -/
def StatementsFit (s : Schema) (entries : List (String × List Sql.Statement)) : Prop :=
  ∀ entry ∈ entries, ∀ statement ∈ entry.2, ∃ b, Sql.render s .sqlite statement = .ok b

theorem declareStatements_fits {entries : List (String × List Sql.Statement)} {b : Lines}
    (hnames : ∀ entry ∈ entries, isSingleLine entry.1 = true) (hb : b.Single) :
    Fits (entries.foldlM (fun (b : Lines) (name, statements) => do
      b.push (constant name (← statementText s statements))) b) (StatementsFit s entries) := by
  refine .foldlM (fun entry hentry b hb => ?_) hb
  rw [← statementText_isOk_iff]
  constructor
  case single =>
    intro b' h
    obtain ⟨text, -, hpush⟩ := Attempt.bind_eq_ok.1 h
    exact (Fits.push hb _).single hpush
  case iff =>
    constructor
    · intro ⟨b', h⟩
      obtain ⟨text, htext, -⟩ := Attempt.bind_eq_ok.1 h
      exact ⟨text, htext⟩
    · intro ⟨text, htext⟩
      have hline := isSingleLine_constant (hnames entry hentry) text
      obtain ⟨b', hpush⟩ := (Fits.push hb _).iff.2 hline
      exact ⟨b', Attempt.bind_eq_ok.2 ⟨text, htext, hpush⟩⟩

/-- The constants of a table can be declared exactly if its statements can
be written. -/
theorem tableConstants_fits (hkey : ∀ key, t.primaryKey? = some key → ∃ c, key.column = .ok c)
    {entries : List (String × List Sql.Statement)} (hentries : tableStatements t = .ok entries) :
    Fits (tableConstants s t) (StatementsFit s entries) := by
  have hnames : ∀ entry ∈ entries, isSingleLine entry.1 = true := fun entry hentry =>
    isSingleLine_statementNames (tableStatements_names hentries entry hentry)
  have hcolumns : AllSingle (t.columns.map fun c => quoted c.name) :=
    allSingle_map.2 fun c _ => isSingleLine_quoted c.name
  have htable := isSingleLine_constant (by decide : isSingleLine "TABLE" = true) t.name
  unfold tableConstants
  refine .congr (.bind (Q := StatementsFit s entries) (.linesOf _) fun b hb => ?_) ?_
  · cases hfound : t.primaryKey? with
    | none =>
        refine .congr (.bind_ok rfl (.bind (.pushAll hb _) fun b hb =>
          .bind_ok hentries (declareStatements_fits hnames hb))) ?_
        simp +decide
    | some key =>
        obtain ⟨c, hc⟩ := hkey key hfound
        have hline := isSingleLine_constant (by decide : isSingleLine "PRIMARY_KEY" = true) c.name
        refine .congr (.bind_ok hc (.bind (.push hb _) fun b hb => .bind (.pushAll hb _) fun b hb =>
          .bind_ok hentries (declareStatements_fits hnames hb))) ?_
        simp +decide [hline]
  · simp +decide [htable, hcolumns]

-- ============================================================ functions

theorem policyFunction_gives {name result : String} {arm : FollowPolicy → String}
    (hname : isSingleLine name = true) (hresult : isSingleLine result = true)
    (harm : ∀ policy, isSingleLine (arm policy) = true) :
    Gives (policyFunction name result arm) Lines.Single True := by
  have hpolicy := isSingleLine_itemName .readFollow
  have harms : AllSingle (FollowPolicy.policies.map fun policy =>
      RuntimeItem.readFollow.name ++ "::" ++ policy.variantName ++ " => " ++ arm policy ++
        ",") := by
    refine allSingle_map.2 fun policy _ => ?_
    simp +decide [hpolicy, harm, isSingleLine_variantName]
  refine .item (.congr (.andThen (.lift (.linesOf _)) fun arms harms =>
    .andThen (.lift (.block harms _ _)) fun body hbody => .lift (.block hbody _ _)) ?_)
  simp +decide [-List.map_map, harms, hpolicy, hname, hresult]

theorem constantFunction_gives {name stem : String} (hname : isSingleLine name = true)
    (hstem : ∀ policy, policyConstant stem policy ∈ statementNames) :
    Gives (constantFunction name stem) Lines.Single True := by
  refine policyFunction_gives hname (by decide) fun policy => ?_
  have hconstant := isSingleLine_statementNames (hstem policy)
  simp +decide [hconstant]

/-- The statements that create a table in each flavor are chosen among by a
function, if they can be written. -/
theorem createTableFunction_gives (s : Schema) (t : Table) :
    Gives (createTableFunction s t) Lines.Single (∀ flavor ∈ Sql.Flavor.all,
      ∃ b, Sql.render s flavor (.createTable t.id true true) = .ok b) := by
  have hvariant : ∀ flavor : Sql.Flavor, isSingleLine flavor.variantName = true := by
    intro flavor
    cases flavor <;> decide
  refine .item (.congr (.andThen (.foldlM (fun flavor _ arms harms => .before
    (.lift (Sql.render_self s flavor _)) fun statement _ => .congr (.lift (.push harms _)) ?_)
      .empty) fun arms harms =>
    .andThen (.lift (.block harms _ _)) fun body hbody => .lift (.block hbody _ _)) ?_)
  · simp +decide [hvariant]
  · simp +decide

-- ============================================================== tables

/-- What turns a model into rows and back fits on lines. -/
structure FieldsFit (s : Schema) (target : Target) (t : Table) : Prop where
  read : ∀ f ∈ t.fields, ReadFits s target t.id f
  written : ∀ write ∈ fieldWrites 0 t.fields, write.Fits target
  updated : ∀ fields, updateFields? t = some fields →
    ∀ write ∈ fieldWrites 0 fields, write.Fits target

theorem fieldsFit_of_none (hfields : updateFields? t = none) :
    FieldsFit s target t ↔ (∀ f ∈ t.fields, ReadFits s target t.id f) ∧
      ∀ write ∈ fieldWrites 0 t.fields, write.Fits target := by
  constructor
  · intro h
    exact ⟨h.read, h.written⟩
  · intro h
    refine ⟨h.1, h.2, fun fields hsome => ?_⟩
    rw [hfields] at hsome
    cases hsome

theorem fieldsFit_of_some {fields : List TableField} (hfields : updateFields? t = some fields) :
    FieldsFit s target t ↔ (∀ f ∈ t.fields, ReadFits s target t.id f) ∧
      (∀ write ∈ fieldWrites 0 t.fields, write.Fits target) ∧
      ∀ write ∈ fieldWrites 0 fields, write.Fits target := by
  constructor
  · intro h
    exact ⟨h.read, h.written, h.updated fields hfields⟩
  · intro h
    refine ⟨h.1, h.2.1, fun fields' hsome => ?_⟩
    obtain rfl := Option.some.inj (hfields.symm.trans hsome)
    exact h.2.2

/-- A function that is there is written on single lines. -/
def SingleIfAny (f : Option Lines) : Prop := ∀ b, f = some b → b.Single

theorem SingleIfAny.none : SingleIfAny none := fun _ h => nomatch h

theorem SingleIfAny.some {b : Lines} (hb : b.Single) : SingleIfAny (some b) :=
  fun _ h => Option.some.inj h ▸ hb

theorem single_of_mem_filterMap {functions : List (Option Lines)}
    (h : ∀ f ∈ functions, SingleIfAny f) : ∀ b ∈ functions.filterMap id, b.Single := by
  intro b hb
  obtain ⟨f, hf, hfound⟩ := List.mem_filterMap.1 hb
  exact h f hf b hfound

theorem tableFunctions_gives {model : String}
    (hreads : ∀ f ∈ t.fields, ∃ read, fieldRead s t.id f = .ok read ∧ read.Readable s) :
    Gives (tableFunctions s target t model) (fun functions => ∀ b ∈ functions, b.Single)
      (isSingleLine model = true ∧ FieldsFit s target t ∧ ∀ flavor ∈ Sql.Flavor.all,
        ∃ b, Sql.render s flavor (.createTable t.id true true) = .ok b) := by
  have hselect := @constantFunction_gives "select" "SELECT" (by decide)
    (fun policy => by cases policy <;> decide)
  have hbyKey : Gives (some <$> constantFunction "select_by_pk" "SELECT_BY_PK") SingleIfAny True :=
    .map (constantFunction_gives (by decide) (fun policy => by cases policy <;> decide))
      fun _ => .some
  have hcount := @policyFunction_gives "column_count" "usize"
    (fun policy => toString (s.columnCount t.id policy)) (by decide) (by decide)
    (fun policy => isSingleLine_toString _)
  have hcreate := createTableFunction_gives s t
  have hvalues := @valuesFunction_gives target "values" (by decide) model t.fields
  have hupdate : ∀ fields, Gives (some <$> valuesFunction target "values_for_update" model fields)
      SingleIfAny _ :=
    fun fields => .map (valuesFunction_gives (by decide) model fields) fun _ => .some
  have hfromRow := @fromRowFunction_gives target s t model hreads
  have hnone : Gives (pure none : Writer (Option Lines)) SingleIfAny True := .pure .none
  refine .after hselect fun select hselect => ?_
  -- whether there is a key or not, what follows is the same
  dsimp only
  split
  case' isTrue => refine .after hbyKey fun byKey hbyKey => ?_
  case' isFalse => refine .after hnone fun byKey hbyKey => ?_
  all_goals
    refine .after hcount fun count hcount => ?_
    cases hfields : updateFields? t with
    | none =>
        refine .congr (.andThen hcreate fun create hcreate => .andThen hvalues
          fun values hvalues => .after hnone fun update hupdate => .andThen hfromRow
            fun fromRow hfromRow => .pure (single_of_mem_filterMap ?_)) ?_
        · simp [hselect, hbyKey, hcount, hcreate, hvalues, hupdate, hfromRow, SingleIfAny.some]
        · rw [fieldsFit_of_none hfields]
          constructor
          · rintro ⟨hcreate, ⟨hmodel, hwritten⟩, ⟨-, hread⟩, -⟩
            exact ⟨hmodel, ⟨hread, hwritten⟩, hcreate⟩
          · rintro ⟨hmodel, ⟨hread, hwritten⟩, hcreate⟩
            exact ⟨hcreate, ⟨hmodel, hwritten⟩, ⟨hmodel, hread⟩, trivial⟩
    | some fields =>
        refine .congr (.andThen hcreate fun create hcreate => .andThen hvalues
          fun values hvalues => .andThen (hupdate fields) fun update hupdate => .andThen hfromRow
            fun fromRow hfromRow => .pure (single_of_mem_filterMap ?_)) ?_
        · simp [hselect, hbyKey, hcount, hcreate, hvalues, hupdate, hfromRow, SingleIfAny.some]
        · rw [fieldsFit_of_some hfields]
          constructor
          · rintro ⟨hcreate, ⟨hmodel, hwritten⟩, ⟨-, hupdated⟩, ⟨-, hread⟩, -⟩
            exact ⟨hmodel, ⟨hread, hwritten, hupdated⟩, hcreate⟩
          · rintro ⟨hmodel, ⟨hread, hwritten, hupdated⟩, hcreate⟩
            exact ⟨hcreate, ⟨hmodel, hwritten⟩, ⟨hmodel, hupdated⟩, ⟨hmodel, hread⟩, trivial⟩

-- =============================================================== units

theorem unitFile_isOk_iff {uses : Uses} {body : Lines} (location : Location)
    (hruntime : isSingleLine uses.runtime = true) :
    (∃ file, unitFile location uses body = .ok file) ↔ uses.Single := by
  rw [← Uses.allSingle_declarations hruntime]
  constructor
  · intro ⟨file, h⟩
    obtain ⟨top, -, h⟩ := Attempt.bind_eq_ok.1 h
    obtain ⟨declarations, hdeclarations, -⟩ := Attempt.bind_eq_ok.1 h
    exact (Fits.linesOf _).iff.1 ⟨declarations, hdeclarations⟩
  · intro h
    exact unitFile_isOk h location body

/-- A unit can be written exactly if its body can, and if the paths that are
in scope at its end are single lines. -/
theorem unit_isOk_iff {write : Writer Lines} {P : Prop} (hwrite : Gives write Lines.Single P)
    (location : Location) (hruntime : isSingleLine target.runtime = true) (own : String) :
    (∃ file, (do
      let (body, uses) ← write.run (.start target.runtime own)
      unitFile location uses body) = .ok file) ↔ P := by
  have hstart := Uses.Single.start hruntime own
  rw [← hwrite.iff hstart]
  constructor
  · intro ⟨file, h⟩
    obtain ⟨⟨body, uses⟩, hbody, hfile⟩ := Attempt.bind_eq_ok.1 h
    have huses := (hwrite.grows hbody).runtime
    have hline : isSingleLine uses.runtime = true := huses ▸ hruntime
    exact ⟨body, uses, hbody, (unitFile_isOk_iff location hline).1 ⟨file, hfile⟩, trivial⟩
  · intro ⟨body, uses, hbody, huses, _⟩
    obtain ⟨file, hfile⟩ : ∃ file, unitFile location uses body = .ok file :=
      (unitFile_isOk_iff location huses.runtime).2 huses
    exact ⟨file, Attempt.bind_eq_ok.2 ⟨(body, uses), hbody, hfile⟩⟩

/-- A type with items can be declared if its name is a single line. -/
theorem declareType_gives {name : String} {items : Lines} (hitems : items.Single) :
    Gives (do
      let declaration ← linesOf ["pub struct " ++ name ++ ";", ""]
      return declaration ++ (← block ("impl " ++ name ++ " \x7b") items "\x7d") : Writer Lines)
      Lines.Single (isSingleLine name = true) := by
  refine .congr (.andThen (.lift (.linesOf _)) fun declaration hdeclaration =>
    .andThen (.lift (.block hitems _ _)) fun b hb => .pure (hdeclaration.append hb)) ?_
  simp +decide

/-- What the unit of a table is made of can be written. -/
structure TableFits (s : Schema) (target : Target) (t : Table)
    (entries : List (String × List Sql.Statement)) : Prop where
  model : isSingleLine t.model.path = true
  accessor : isSingleLine t.accessor = true
  constants : StatementsFit s entries
  create : ∀ flavor ∈ Sql.Flavor.all,
    ∃ b, Sql.render s flavor (.createTable t.id true true) = .ok b
  fields : FieldsFit s target t

theorem tableUnit_isOk_iff (hruntime : isSingleLine target.runtime = true)
    (hkey : ∀ key, t.primaryKey? = some key → ∃ c, key.column = .ok c)
    {entries : List (String × List Sql.Statement)} (hentries : tableStatements t = .ok entries)
    (hreads : ∀ f ∈ t.fields, ∃ read, fieldRead s t.id f = .ok read ∧ read.Readable s) :
    (∃ file, tableUnit s target t = .ok file) ↔ TableFits s target t entries := by
  have hfits : TableFits s target t entries ↔ isSingleLine (cratePath t.model) = true ∧
      StatementsFit s entries ∧ (FieldsFit s target t ∧ ∀ flavor ∈ Sql.Flavor.all,
        ∃ b, Sql.render s flavor (.createTable t.id true true) = .ok b) ∧
      isSingleLine t.accessor = true := by
    rw [isSingleLine_cratePath]
    exact ⟨fun h => ⟨h.model, h.constants, ⟨h.fields, h.create⟩, h.accessor⟩,
      fun ⟨hmodel, hconstants, ⟨hfields, hcreate⟩, haccessor⟩ =>
        ⟨hmodel, haccessor, hconstants, hcreate, hfields⟩⟩
  rw [hfits]
  refine unit_isOk_iff ?_ (.ofTable t) hruntime t.accessor
  refine .bind (.path _) fun model _ => ?_
  refine .congr (.andThen (.lift (tableConstants_fits hkey hentries)) fun constants hconstants =>
    .andThen (tableFunctions_gives hreads) fun functions hfunctions => .after (.congr
      (.foldlM (P := fun _ => True) (fun f hf items hitems => .congr (.andThen
        (.lift (.push hitems "")) fun b hb => .pure (hb.append (hfunctions f hf))) ?_) hconstants)
      ?_) fun items hitems => declareType_gives hitems) ?_
  · simp +decide
  · simp
  · constructor
    · rintro ⟨hconstants, ⟨hmodel, hfields, hcreate⟩, haccessor⟩
      exact ⟨hmodel, hconstants, ⟨hfields, hcreate⟩, haccessor⟩
    · rintro ⟨hmodel, hconstants, ⟨hfields, hcreate⟩, haccessor⟩
      exact ⟨hconstants, ⟨hmodel, hfields, hcreate⟩, haccessor⟩

-- ============================================================ adapters

/-- What a part is built from fits on lines. -/
def PartBuild.Fits (target : Target) : PartBuild → Prop
  | .given param => isSingleLine param.name = true
  | .converted param conversion _ => isSingleLine param.name = true ∧ AllSingle conversion.texts
  | .assembled adapter params =>
    isSingleLine (adapter.fullPath target) = true ∧ AllSingle (params.map (·.name))

/-- The variants of a part are known if it is an enumeration. -/
def PartBuild.Filled : PartBuild → Prop
  | .converted _ conversion _ => conversion.Filled
  | _ => True

theorem buildCode_emits {build : PartBuild} (h : build.Filled) :
    Names (buildCode target build) (build.Fits target) := by
  cases build with
  | given param => exact .congr (.pure trivial) (by simp [PartBuild.Fits, isSingleLine_ident])
  | converted param conversion optional =>
      refine .congr (convertedCode_emits h _ optional) ?_
      rw [isSingleLine_ident]
      rfl
  | assembled adapter params =>
      have hidents : AllSingle (params.map fun param => ident param.name) ↔
          AllSingle (params.map (·.name)) := by
        simp only [allSingle_map, isSingleLine_ident]
      refine .bind (adapterName_emits adapter) fun name _ => .congr (.pure trivial) ?_
      simp +decide [hidents]

theorem Param.isSingleLine_code (p : Param) : isSingleLine p.code = true := by
  have htype : isSingleLine p.storage.valueType = true := by
    cases p.storage <;> decide +kernel
  unfold Param.code
  split
  · simp +decide [htype]
  · exact htype

/-- What an adapter builds its structure from fits on lines. -/
structure BuildsFit (target : Target) (x : Structure) : Prop where
  params : ∀ param ∈ structureParams x, isSingleLine param.name = true
  parts : ∀ entry ∈ partBuilds (structureParams x) x.parts,
    isSingleLine entry.1.name = true ∧ entry.2.Fits target

theorem createInstanceFunction_gives {x : Structure} {type : String}
    (hfilled : ∀ entry ∈ partBuilds (structureParams x) x.parts, entry.2.Filled) :
    Gives (createInstanceFunction target x type) Lines.Single
      (isSingleLine type = true ∧ BuildsFit target x) := by
  refine .congr (.andThen (.foldlM (P := fun entry : PartHead × PartBuild =>
      isSingleLine entry.1.name = true ∧ entry.2.Fits target)
    (fun entry hentry fields hfields => ?_) .empty) fun fields hfields =>
    .andThen (.lift (.linesOf _)) fun signature hsignature =>
      .andThen (.lift (.block hfields _ _)) fun body hbody =>
        .lift (.push (hsignature.appendIndented hbody 1) _)) ?_
  · refine .congr (.bind (Q := isSingleLine entry.1.name = true)
      (buildCode_emits (hfilled entry hentry)) fun value _ =>
        .congr (.lift (.push hfields _)) ?_) and_comm
    split
    case isTrue hsame => simp +decide [hsame, isSingleLine_ident]
    case isFalse => simp +decide [isSingleLine_ident, and_comm]
  · have hparam : ∀ param : Param,
        isSingleLine ("    " ++ ident param.name ++ ": " ++ param.code ++ ",") = true ↔
          isSingleLine param.name = true := by
      intro param
      simp +decide [isSingleLine_ident, param.isSingleLine_code]
    have hsignature : AllSingle (["pub fn create_instance("] ++
        ((structureParams x).map fun param =>
          "    " ++ ident param.name ++ ": " ++ param.code ++ ",") ++
        [") -> " ++ type ++ " \x7b"]) ↔
          (∀ param ∈ structureParams x, isSingleLine param.name = true) ∧
            isSingleLine type = true := by
      rw [allSingle_append, allSingle_append, allSingle_map]
      simp +decide only [hparam]
      simp +decide
    have hbody : isSingleLine (type ++ " \x7b") = true ↔ isSingleLine type = true := by
      simp +decide
    have hclosing : isSingleLine "\x7d" = true := by decide
    rw [hsignature, hbody]
    constructor
    · rintro ⟨hparts, ⟨hparams, htype⟩, -⟩
      exact ⟨htype, hparams, hparts⟩
    · rintro ⟨htype, hparams, hparts⟩
      exact ⟨hparts, ⟨hparams, htype⟩, ⟨htype, hclosing⟩, hclosing⟩

/-- What a part is written by fits on lines. -/
def PartWrite.Fits (target : Target) (head : PartHead) : PartWrite → Prop
  | .stored _ => isSingleLine head.name = true
  | .converted _ conversion optional =>
    isSingleLine (convertedValue conversion ("param." ++ ident head.name) optional) = true
  | .filled _ adapter =>
    isSingleLine (adapter.fullPath target) = true ∧ isSingleLine head.name = true

theorem writeCode_gives (head : PartHead) (write : PartWrite) :
    Gives (writeCode target head write) Lines.Single (write.Fits target head) := by
  have hoffset := @isSingleLine_offset "start" (by decide)
  cases write with
  | stored slot =>
      refine .item (.congr (.lift (.oneLine _)) ?_)
      simp +decide [hoffset, isSingleLine_ident, PartWrite.Fits]
  | converted slot conversion optional =>
      refine .item (.congr (.lift (.oneLine _)) ?_)
      simp +decide [hoffset, PartWrite.Fits]
  | filled slot adapter =>
      refine .bind (adapterName_emits adapter) fun name _ => .congr
        (.lift (fillCode_fits (hoffset slot) (by decide) name _ false)) ?_
      simp +decide [isSingleLine_ident]

theorem fillValuesFunction_gives (x : Structure) (type : String) :
    Gives (fillValuesFunction target x type) Lines.Single
      (isSingleLine type = true ∧
        ∀ entry ∈ partWrites 0 x.parts, entry.2.Fits target entry.1) := by
  have hvalue := isSingleLine_itemName .value
  refine .item (.congr (.andThen (.foldlM (P := fun entry : PartHead × PartWrite =>
      entry.2.Fits target entry.1) (fun entry _ body hbody => .before
    (writeCode_gives entry.1 entry.2) fun code hcode => .pure (hbody.append hcode)) .empty)
    fun body hbody => .lift (.block hbody _ _)) ?_)
  simp +decide [hvalue, and_comm]

theorem newValuesFunction_gives (type : String) (count : Nat) :
    Gives (newValuesFunction type count) Lines.Single (isSingleLine type = true) := by
  have hvalue := isSingleLine_itemName .value
  refine .item (.congr (.andThen (.lift (.linesOf _)) fun body hbody =>
    .lift (.block hbody _ _)) ?_)
  simp +decide [hvalue]

/-- What the unit of a structure is made of can be written. -/
structure AdapterFits (target : Target) (x : Structure) : Prop where
  type : isSingleLine x.type.path = true
  name : isSingleLine x.adapterName = true
  built : BuildsFit target x
  written : ∀ entry ∈ partWrites 0 x.parts, entry.2.Fits target entry.1

theorem adapterUnit_isOk_iff (hruntime : isSingleLine target.runtime = true) {x : Structure}
    (hfilled : ∀ entry ∈ partBuilds (structureParams x) x.parts, entry.2.Filled) :
    (∃ file, adapterUnit target x = .ok file) ↔ AdapterFits target x := by
  have hfits : AdapterFits target x ↔ isSingleLine (cratePath x.type) = true ∧
      BuildsFit target x ∧ (∀ entry ∈ partWrites 0 x.parts, entry.2.Fits target entry.1) ∧
        isSingleLine x.adapterName = true := by
    rw [isSingleLine_cratePath]
    exact ⟨fun h => ⟨h.type, h.built, h.written, h.name⟩,
      fun ⟨htype, hbuilt, hwritten, hname⟩ => ⟨htype, hname, hbuilt, hwritten⟩⟩
  have hcolumns : AllSingle ((structureParams x).map fun param => quoted param.name) :=
    allSingle_map.2 fun param _ => isSingleLine_quoted param.name
  rw [hfits]
  refine unit_isOk_iff ?_ (.ofAdapter x.type) hruntime x.adapterName
  refine .bind (.path _) fun type _ => ?_
  refine .congr (.andThen (.lift (.linesOf _)) fun columns hcolumns =>
    .andThen (createInstanceFunction_gives hfilled) fun create hcreate =>
      .andThen (fillValuesFunction_gives x type) fun fill hfill =>
        .andThen (newValuesFunction_gives type _) fun fresh hfresh =>
          .andThen (.lift (.push (hcolumns.append hcreate) "")) fun b hb =>
            .andThen (.lift (.push (hb.append hfill) "")) fun b hb =>
              declareType_gives (hb.append hfresh)) ?_
  have hlines : AllSingle ["pub const COLUMNS: [&'static str; " ++
      toString (structureParams x).length ++ "] = [" ++
        commaJoin ((structureParams x).map fun param => quoted param.name) ++ "];", ""] := by
    simp +decide [hcolumns]
  have hempty : isSingleLine "" = true := by decide
  constructor
  · rintro ⟨-, ⟨htype, hbuilt⟩, ⟨-, hwritten⟩, -, -, -, hname⟩
    exact ⟨htype, hbuilt, hwritten, hname⟩
  · rintro ⟨htype, hbuilt, hwritten, hname⟩
    exact ⟨hlines, ⟨htype, hbuilt⟩, ⟨htype, hwritten⟩, htype, hempty, hempty, hname⟩

end Emit

end Rowsmith

/-
The accessor of a table: a type without data that carries the statements
of the table as constants, picks one of them by follow policy or by
flavor, turns a model into parameters and a row into a model.

The statements are named before they are written, and reading and writing
are planned before they are code, so that what is emitted can be compared
with what was asked for.
-/
import Rowsmith.Emit.Code
import Rowsmith.Sql.Render

namespace Rowsmith.Emit

open Text

-- ============================================================ constants

def constant (name value : String) : String :=
  "pub const " ++ name ++ ": &'static str = " ++ quoted value ++ ";"

/-- The name of a constant that depends on the follow policy. -/
def policyConstant (stem : String) (policy : FollowPolicy) : String :=
  stem ++ "_" ++ Naming.screamingCase policy.variantName

/-- The name of the constant for an insert. -/
def insertConstant : Sql.InsertMode → String
  | .plain => "INSERT"
  | .ignore => "INSERT_IGNORE"
  | .orIgnore => "INSERT_OR_IGNORE"

/-- The select of a table by its key, if it has one. -/
def selectByKey? (t : Table) (policy : FollowPolicy) :
    Except Defect (Option (String × List Sql.Statement)) := do
  return (← Sql.Statement.filterKey? t policy).map fun filter =>
    (policyConstant "SELECT_BY_PK" policy, [.select t.id policy, filter])

/-- The statements a table declares, under the names of their
constants. -/
def tableStatements (t : Table) : Except Defect (List (String × List Sql.Statement)) := do
  let filter? ← Sql.Statement.filterKey? t .keys
  let byKey ← FollowPolicy.policies.mapM (selectByKey? t)
  let update := match Sql.Statement.updateNonKey? t, filter? with
    | some update, some filter => [("UPDATE_BY_PK", [update, filter])]
    | _, _ => []
  let delete := match filter? with
    | some filter => [("DELETE_BY_PK", [.delete t.id, filter])]
    | none => []
  return (Sql.InsertMode.all.map fun mode => (insertConstant mode, [.insert t.id mode])) ++
    update ++ delete ++ [("DELETE_ALL", [.delete t.id])] ++
    (FollowPolicy.policies.map fun policy =>
      (policyConstant "SELECT" policy, [.select t.id policy])) ++
    byKey.filterMap id ++ [("DROP_TABLE", [.dropTable t.id true])]

/-- Statements on one line, one after the other. -/
def statementText (s : Schema) (statements : List Sql.Statement) : Except Defect String := do
  return (← Sql.renderAll s .sqlite statements).join " "

/-- The names of a table and its statements. -/
def tableConstants (s : Schema) (t : Table) : Except Defect Lines := do
  let columns := t.columns.map fun c => quoted c.name
  let b ← linesOf [constant "TABLE" t.name,
    "pub const COLUMNS: [&'static str; " ++ toString columns.length ++ "] = [" ++
      commaJoin columns ++ "];"]
  let b ← match t.primaryKey? with
    | some key => do b.push (constant "PRIMARY_KEY" (← key.column).name)
    | none => pure b
  let b ← b.pushAll
    ["pub const COLUMN_COUNT: usize = " ++ toString columns.length ++ ";", ""]
  (← tableStatements t).foldlM (fun b (name, statements) => do
    b.push (constant name (← statementText s statements))) b

-- ======================================================= choosing one of

/-- A function that matches on the follow policy. -/
def policyFunction (name result : String) (arm : FollowPolicy → String) : Writer Lines := do
  let policyType ← Writer.item .readFollow
  let arms ← linesOf (FollowPolicy.policies.map fun policy =>
    policyType ++ "::" ++ policy.variantName ++ " => " ++ arm policy ++ ",")
  block ("pub fn " ++ name ++ "(follow: " ++ policyType ++ ") -> " ++ result ++ " \x7b")
    (← block "match follow \x7b" arms "\x7d") "\x7d"

/-- A function that picks one of the constants of a stem. -/
def constantFunction (name stem : String) : Writer Lines :=
  policyFunction name "&'static str" fun policy => "Self::" ++ policyConstant stem policy

/-- The function that gives the statement creating the table in each
flavor. -/
def createTableFunction (s : Schema) (t : Table) : Writer Lines := do
  let flavorType ← Writer.item .flavor
  let arms ← Sql.Flavor.all.foldlM (fun (arms : Lines) flavor => do
    let statement ← Sql.render s flavor (.createTable t.id true true)
    arms.push (flavorType ++ "::" ++ flavor.variantName ++ " => " ++
      quoted statement.text ++ ",")) Lines.empty
  block ("pub fn create_table(flavor: " ++ flavorType ++ ") -> &'static str \x7b")
    (← block "match flavor \x7b" arms "\x7d") "\x7d"

-- ============================================================== writing

/-- The place of a field of the model being written. -/
def paramPlace (field : String) : String := "param." ++ ident field

/-- The slots and the later fills of a parameter array. -/
structure WriteCode where
  slots : Lines
  fills : Lines

/-- Adds the code that writes one field. -/
def WriteCode.add (target : Target) (code : WriteCode) : FieldWrite → Writer WriteCode
  | .stored field => do
    let _ ← Writer.item .toValue
    return { code with slots := ← code.slots.push (paramPlace field ++ ".to_value(),") }
  | .converted field conversion optional => do
    let _ ← Writer.item .toValue
    let value := convertedValue conversion (paramPlace field) optional
    return { code with slots := ← code.slots.push (value ++ ",") }
  | .filled field adapter optional start count => do
    let adapter ← adapterName target adapter
    let slots ← code.slots.pushAll
      (List.replicate count (RuntimeItem.value.name ++ "::Null,"))
    let fill ← fillCode adapter (paramPlace field) "&mut array" (toString start) optional
    return ⟨slots, code.fills ++ fill⟩

/-- A function that turns a model into parameters, one slot for each
column of the given fields. -/
def valuesFunction (target : Target) (name model : String) (fields : List TableField) :
    Writer Lines := do
  let value ← Writer.item .value
  let code ← (fieldWrites 0 fields).foldlM (WriteCode.add target) ⟨.empty, .empty⟩
  let body ←
    if code.fills.isEmpty then block "vec![" code.slots "]"
    else do
      ((← block "let mut array = vec![" code.slots "];") ++ code.fills).push "array"
  block ("pub fn " ++ name ++ "(param: &" ++ model ++ ") -> Vec<" ++ value ++ "> \x7b") body
    "\x7d"

-- ============================================================== reading

/-- The expression that builds a value of several columns. One that is
optional is absent when all its columns are null. -/
def assembledCode (adapter : String) (getters : List Getter) (optional : Bool) :
    Except Defect Lines :=
  let create := adapter ++ "::create_instance(" ++ commaJoin (getters.map Getter.code) ++ ")"
  if optional then
    let allNull := (List.range getters.length).map fun i =>
      "row.is_null(" ++ offset "*start" i ++ ")"
    linesOf ["if " ++ String.intercalate " && " allNull ++ " \x7b",
      "    *start += " ++ toString getters.length ++ ";",
      "    None",
      "\x7d else \x7b",
      "    Some(" ++ create ++ ")",
      "\x7d"]
  else oneLine create

/-- The runtime type whose constructors build a reference. -/
def factoryItem : ReferenceShape → RuntimeItem
  | .int => .foreignInt
  | .long => .foreignLong
  | .object | .general => .foreignObj

/-- How the accessor of a referenced table is called in the unit of the
table at `id`. -/
def accessorName (s : Schema) (target : Target) (id : TableId) (r : Reference) :
    Writer String := do
  if r.table = id then return "Self"
  else Writer.path ((Location.ofTable (← s.table r.table)).fullPath target)

/-- The reference that is present, given its key. -/
def presentCode (s : Schema) (target : Target) (id : TableId) (read : ReferenceRead)
    (arm : ReferenceArm) (key : String) : Writer String := do
  let factory := (factoryItem read.target.shape).name
  let reference ← match arm.entity with
    | some policy => do
      let accessor ← accessorName s target id read.target
      let policyType ← Writer.item .readFollow
      pure (factory ++ "::of_entity(" ++ key ++ ", " ++ accessor ++ "::from_row(row, " ++
        policyType ++ "::" ++ policy.variantName ++ ", start)?)")
    | none => pure (factory ++ "::of_id(" ++ key ++ ")")
  return if read.optional then "Some(" ++ reference ++ ")" else reference

/-- The reference that is absent, with the skipping of what is not
read. -/
def absentCode (read : ReferenceRead) (skip : Nat) : Except Defect Lines :=
  let absent :=
    if read.optional then "None" else (factoryItem read.target.shape).name ++ "::empty()"
  if skip > 0 then do
    block "\x7b" (← linesOf ["*start += " ++ toString skip ++ ";", absent]) "\x7d"
  else oneLine (absent ++ ",")

/-- The expression that reads a reference under one policy. A key that is
null, or zero if it is an integer, makes a nullable reference absent. -/
def armCode (s : Schema) (target : Target) (id : TableId) (read : ReferenceRead)
    (arm : ReferenceArm) : Writer Lines := do
  let _ ← Writer.item (factoryItem read.target.shape)
  let key := read.target.key
  let getter := Getter.code ⟨key, read.nullable⟩
  if read.nullable then
    let absent ← absentCode read arm.skip
    let present := if key.isInteger then "Some(id) if id != 0" else "Some(id)"
    let arms ← oneLine (present ++ " => " ++ (← presentCode s target id read arm "id") ++ ",")
    let other := if key.isInteger then "_" else "None"
    block ("match " ++ getter ++ " \x7b") (arms ++ (← wrapped (other ++ " => ") absent ""))
      "\x7d"
  else if arm.entity.isSome then
    let reference ← presentCode s target id read arm "id"
    linesOf ["\x7b", "    let id = " ++ getter ++ ";", "    " ++ reference, "\x7d"]
  else
    oneLine (← presentCode s target id read arm getter)

/-- The expression that reads a field. -/
def readCode (s : Schema) (target : Target) (id : TableId) : FieldRead → Writer Lines
  | .column getter => oneLine getter.code
  | .converted getter conversion => do
    oneLine (← convertedCode conversion getter.code getter.optional)
  | .assembled adapter getters optional => do
    assembledCode (← adapterName target adapter) getters optional
  | .reference read => do
    let policyType ← Writer.item .readFollow
    let arms ← read.arms.foldlM (fun (arms : Lines) arm => do
      let code ← armCode s target id read arm
      let after := if code.length > 1 then "" else ","
      return arms ++ (← wrapped (policyType ++ "::" ++ arm.policy.variantName ++ " => ")
        code after)) Lines.empty
    block "match follow \x7b" arms "\x7d"

/-- The function that turns the columns of a row into a model. -/
def fromRowFunction (s : Schema) (target : Target) (t : Table) (model : String) :
    Writer Lines := do
  let row ← Writer.item .row
  let policyType ← Writer.item .readFollow
  let rowError ← Writer.item .rowError
  let fields ← t.fields.foldlM (fun (fields : Lines) f => do
    let read ← readCode s target t.id (← fieldRead s t.id f)
    return fields ++ (← wrapped (ident f.name ++ ": ") read ",")) Lines.empty
  let literal ← block ("Ok(" ++ model ++ " \x7b") fields "\x7d)"
  let policy := if t.references.isEmpty then "_follow" else "follow"
  let signature ← linesOf ["pub fn from_row(",
    "    row: &" ++ row ++ ",",
    "    " ++ policy ++ ": " ++ policyType ++ ",",
    "    start: &mut usize,",
    ") -> Result<" ++ model ++ ", " ++ rowError ++ "> \x7b"]
  (signature.appendIndented literal 1).push "\x7d"

-- ============================================================= the unit

/-- The functions of an accessor, in order. -/
def tableFunctions (s : Schema) (target : Target) (t : Table) (model : String) :
    Writer (List Lines) := do
  let select ← constantFunction "select" "SELECT"
  let selectByKey ←
    if t.primaryKey?.isSome then some <$> constantFunction "select_by_pk" "SELECT_BY_PK"
    else pure none
  let columnCount ← policyFunction "column_count" "usize" fun policy =>
    toString (s.columnCount t.id policy)
  let create ← createTableFunction s t
  let values ← valuesFunction target "values" model t.fields
  let update ← match updateFields? t with
    | some fields => some <$> valuesFunction target "values_for_update" model fields
    | none => pure none
  let fromRow ← fromRowFunction s target t model
  return [some select, selectByKey, some columnCount, some create, some values, update,
    some fromRow].filterMap id

def tableUnit (s : Schema) (target : Target) (t : Table) : Except Defect SourceFile := do
  let write : Writer Lines := do
    let model ← Writer.path (cratePath t.model)
    let constants ← tableConstants s t
    let functions ← tableFunctions s target t model
    let items ← functions.foldlM (fun (items : Lines) f => do return (← items.push "") ++ f)
      constants
    let declaration ← linesOf ["pub struct " ++ t.accessor ++ ";", ""]
    return declaration ++ (← block ("impl " ++ t.accessor ++ " \x7b") items "\x7d")
  let (body, uses) ← write.run (.start target.runtime t.accessor)
  unitFile (.ofTable t) uses body

end Rowsmith.Emit

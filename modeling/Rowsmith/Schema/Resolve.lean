/-
Resolving: how declared models become a schema.

A run has four steps. Every model is registered under all the types it is
known by, so that any table can be referred to before it is resolved.
Then, in order, the fields of every model are resolved and its table is
checked. Then every primary key that was foretold for a table not yet
resolved is compared with the one it was given. Last, the nested
structures asked for on their own are resolved.

A field is stored in the first way that applies: as a reference, by the
conversion a mapper provides, as it is, by the conversion written on it,
through an existing adapter, or as a nested structure. The last is tried
for whatever is left, and types that cannot be nested fail there.

Every failure names the model being processed, and the field if one was
being resolved. The state of a run is what was resolved so far, together
with the questions asked of the describer, on which its answers may
depend.
-/
import Rowsmith.Model.Describer
import Rowsmith.Schema

namespace Rowsmith

-- ========================================================== the setting

/-- What a run is given: whom it asks for the fields of a type, the
locator, the models, and the position of the model known by each type. -/
structure Setting where
  -- The fields of a type, given the types asked for before, oldest
  -- first.
  answers : List TypeExpr → TypeExpr → Except Failure (List FieldDecl)
  -- How many nested structures may be under construction at once.
  room : Nat
  locator : Locator
  models : List TableRequest
  lookup : List (TypeExpr × TableId)

/-- A primary key foretold for a table that was not resolved yet. -/
structure Prediction where
  -- The model and field that refer to the table.
  model : String
  field : String
  table : TableId
  -- The foretold key field and the type of its values.
  key : String
  type : TypeExpr
deriving DecidableEq, Repr

/-- What a run has resolved so far. -/
structure Progress where
  -- The tables of the first models, in order.
  tables : List Table
  -- The nested structures, in the order in which they were
  -- finished.
  structures : List Structure
  predictions : List Prediction
  -- The types the describer was asked for, oldest first.
  asked : List TypeExpr
deriving Repr

def Progress.start : Progress := ⟨[], [], [], []⟩

/-- A step of a run: it may fail, and otherwise moves the run on. -/
abbrev Step := StateT Progress (Except Failure)

namespace Step

/-- The models cannot be turned into a schema. -/
def reject {α : Type} (text : String) : Step α := throw (.structural text)

/-- Goes on only if the condition holds. -/
def require (condition : Bool) (text : String) : Step Unit :=
  if condition then pure () else reject text

/-- A failure of the step records the model and field. -/
def located {α : Type} (model : String) (field : Option String) (step : Step α) : Step α :=
  fun p =>
    match step p with
    | .ok r => .ok r
    | .error e => .error (e.whileProcessing model field)

end Step

namespace Setting

/-- Asks for the fields of a type. -/
def ask (env : Setting) (type : TypeExpr) : Step (List FieldDecl) := do
  let p ← get
  match env.answers p.asked type with
  | .error e => throw e
  | .ok fields =>
    set { p with asked := p.asked ++ [type] }
    return fields

end Setting

-- ========================================================= primary keys

/-- A field is the primary key when it is marked, when it is called `id`,
or when it is called after the model, or after another type the model is
known by, with `_id` added. How other fields are stored has no bearing on
it, and so the key of a table can be foretold. -/
def isPrimaryKey (r : TableRequest) (f : FieldDecl) : Bool :=
  f.primaryKey || f.name == "id" ||
    r.lookupKeys.any fun key => f.name == Naming.idField key.name

-- =============================================================== owners

/-- Where a field is declared. -/
inductive Owner
  | model (request : TableRequest)
  | structured (type : TypeExpr)

/-- The short name of the owner in messages. -/
def Owner.name : Owner → String
  | .model request => request.modelName
  | .structured type => type.name

/-- How a field was found to be stored. -/
inductive Resolved
  | reference (target : Reference)
  | mapped (conversion : Conversion)
  | native (storage : Storage)
  | adapted (adapter : ProvidedAdapter)
  | nested (structured : Structure)
deriving Repr

-- =========================================================== references

/-- Any type named like a wrapper is taken for a reference, so that
unsupported wrappers fail as such and are not nested. -/
def isReferenceType (type : TypeExpr) : Bool :=
  type.isPath && "Foreign".toList.isPrefixOf type.name.toList

/-- The name and value type of the primary key of a table that is
referred to. If the table is not resolved yet, the key is read off its
declared fields and recorded for the later comparison. -/
def referencedKey (env : Setting) (r : TableRequest) (f : FieldDecl) (id : TableId) :
    Step (Option (String × TypeExpr)) := do
  match (← get).tables[id]? with
  | some t => return t.primaryKey?.map fun key => (key.name, key.valueType)
  | none =>
    match env.models[id]? with
    | none => return none
    | some referenced =>
      let fields ← env.ask referenced.model
      match fields.find? (isPrimaryKey referenced) with
      | none => return none
      | some key =>
        modify fun p => { p with
          predictions := p.predictions ++ [{
            model := r.modelName
            field := f.name
            table := id
            key := key.name
            type := key.type.valueType }] }
        return some (key.name, key.type.valueType)

/-- Resolves a field that refers to another model. -/
def resolveReference (env : Setting) (r : TableRequest) (f : FieldDecl) : Step Reference := do
  let type := f.type.valueType
  let some shape := ReferenceShape.ofName? type.name
    | Step.reject ("invalid foreign key reference type `" ++ type.print ++
        "`; supported types: Foreign, ForeignInt, ForeignLong, ForeignObj")
  let wrongArity := "foreign key reference `" ++ type.print ++ "` must have " ++
    toString shape.arity ++ " type argument(s)"
  Step.require (type.args.length == shape.arity) wrongArity
  let some entity := type.args.getLast? | Step.reject wrongArity
  let keyType := match shape.fixedKey? with
    | some key => TypeExpr.named key
    | none => type.args.headD entity
  let some id := findAssoc? env.lookup entity
    | Step.reject ("foreign model `" ++ entity.name ++ "` referenced from `" ++ r.modelName ++
        "` model is missing in the input set for table generation")
  let some (_, actual) ← referencedKey env r f id
    | Step.reject ("foreign model `" ++ entity.name ++
        "` does not have a primary key; expected key type `" ++ keyType.print ++ "`")
  Step.require (actual == keyType)
    ("foreign model `" ++ entity.name ++ "` primary key `" ++ actual.print ++
      "` doesn't match the foreign key `" ++ keyType.print ++ "` declared by `" ++ r.modelName ++
      "." ++ f.name ++ "`")
  let some key := Storage.ofNative? actual
    | Step.reject ("foreign model `" ++ entity.name ++ "` primary key `" ++ actual.print ++
        "` must be a natively supported type")
  return { table := id, key := key, keyType := keyType, shape := shape }

-- ======================================================= classification

/-- Types that hold several values. -/
def collectionNames : List String :=
  ["Vec", "VecDeque", "LinkedList", "HashMap", "HashSet", "BTreeMap", "BTreeSet", "BinaryHeap"]

def wrapperNames : List String :=
  ["Box", "Rc", "Arc", "Cell", "RefCell", "Mutex", "RwLock"]

/-- Why a type cannot be spread over columns, if it cannot. -/
def unnestable? (type : TypeExpr) : Option String :=
  match type.shape with
  | .path =>
    if type.isOption then some "nested `Option` cannot be stored"
    else if collectionNames.contains type.name then
      some "collections cannot be stored in columns"
    else if wrapperNames.contains type.name then
      some "wrapper types cannot be stored in columns"
    else none
  | .array | .slice => some "collections cannot be stored in columns"
  | .tuple => some "tuples cannot be stored in columns"
  | .reference => some "references cannot be stored in columns"
  | .traitObject => some "trait objects cannot be stored in columns"
  | .other => some "the type is not supported"

/-- The conversion written on a field. -/
def inlineConversion (owner : Owner) (f : FieldDecl) : InlineConversion → Step Conversion
  | .provided path storage => return .provided path storage
  | .ordinal variants => do
    Step.require (!variants.isEmpty)
      ("field `" ++ f.name ++ "` of `" ++ owner.name ++ "` has type `" ++ f.type.print ++
        "`, an enum without variants")
    return .ordinal f.type.valueType variants

/-- Resolves one field. Whatever is stored in no other way is handed to
`nest`, which resolves nested structures. -/
def resolveField (env : Setting) (nest : TypeExpr → Step Structure) (owner : Owner)
    (f : FieldDecl) : Step Resolved := do
  let type := f.type.valueType
  if isReferenceType type then
    match owner with
    | .model request => return .reference (← resolveReference env request f)
    | .structured owner =>
      Step.reject ("field `" ++ f.name ++ "` of nested structure `" ++ owner.name ++
        "` is a foreign key; foreign keys are only allowed on models")
  else
    Step.require (!f.nullable || f.type.isOption)
      ("nullable field `" ++ f.name ++ "` of `" ++ owner.name ++
        "` must be declared as `Option<" ++ f.type.print ++ ">`")
    if let some mapper := env.locator.mapper? type then
      return .mapped (.provided mapper.path mapper.storage)
    if let some storage := Storage.ofNative? type then
      return .native storage
    if let some inline := f.inline then
      return .mapped (← inlineConversion owner f inline)
    if let some adapter := env.locator.adapter? type then
      Step.require (!adapter.columns.isEmpty)
        ("adapter `" ++ adapter.path ++ "` for `" ++ type.print ++ "` declares no columns")
      return .adapted adapter
    if let some reason := unnestable? type then
      Step.reject ("field `" ++ f.name ++ "` of `" ++ owner.name ++ "` has unsupported type `" ++
        f.type.print ++ "`: " ++ reason)
    return .nested (← nest type)

-- ==================================================== nested structures

/-- A part of a nested structure, from a resolved field of it. Only what
is stored in one column may be optional. -/
def partOf (type : TypeExpr) (f : FieldDecl) : Resolved → Step Part
  | .reference _ =>
    Step.reject ("field `" ++ f.name ++ "` of nested structure `" ++ type.name ++
      "` is a foreign key; foreign keys are only allowed on models")
  | .native storage => return .native ⟨f.name, f.storageName, f.type⟩ storage
  | .mapped conversion => return .mapped ⟨f.name, f.storageName, f.type⟩ conversion
  | .adapted adapter => do
    Step.require (!f.type.isOption)
      ("field `" ++ f.name ++ "` of nested structure `" ++ type.name ++
        "` is optional and stored through adapter `" ++ adapter.path ++
        "`, which is not supported")
    return .adapted ⟨f.name, f.storageName, f.type⟩ adapter
  | .nested structured => do
    Step.require (!f.type.isOption)
      ("field `" ++ f.name ++ "` of nested structure `" ++ type.name ++
        "` is an optional nested structure, which is not supported")
    return .nested ⟨f.name, f.storageName, f.type⟩ structured.type structured.parts

/-- Resolves the nested structure of a type, once in a run. The list
holds the structures this one is needed for, and the number how many more
may be opened. -/
def structureWithin (env : Setting) : Nat → List TypeExpr → TypeExpr → Step Structure
  | room, enclosing, type => do
    if let some known := (← get).structures.find? fun s => s.type = type then
      return known
    Step.require (!enclosing.contains type)
      ("nested structure `" ++ type.print ++ "` contains itself")
    let fields ← env.ask type
    Step.require (!fields.isEmpty) ("nested structure `" ++ type.print ++ "` has no fields")
    match room with
    | 0 => Step.reject ("nested structure `" ++ type.print ++ "` contains itself")
    | room + 1 =>
      let parts ← fields.mapM fun f => do
        partOf type f (← resolveField env (structureWithin env room (type :: enclosing))
          (.structured type) f)
      let built : Structure := ⟨type, parts⟩
      modify fun p => { p with structures := p.structures ++ [built] }
      return built

/-- Resolves the nested structure of a type. -/
def structureOf (env : Setting) (type : TypeExpr) : Step Structure :=
  structureWithin env env.room [] type

-- =============================================================== tables

/-- The columns of a table field that was resolved, and how it is
stored. -/
def placeField (f : FieldDecl) : Resolved → List Column × FieldKind
  | .reference target =>
    ([⟨f.column.getD (Naming.foreignKeyColumn f.storageName), target.key⟩], .reference target)
  | .native storage => ([⟨f.storageName, storage⟩], .native)
  | .mapped conversion => ([⟨f.storageName, conversion.storage⟩], .mapped conversion)
  | .adapted adapter => (adapter.columnsUnder f.storageName, .adapted adapter)
  | .nested structured => (structured.columns f.storageName, .nested structured)

def tableField (env : Setting) (r : TableRequest) (f : FieldDecl) : Step TableField := do
  let resolved ← resolveField env (structureOf env) (.model r) f
  let (columns, kind) := placeField f resolved
  if let .nested structured := kind then
    Step.require (!f.type.isOption || structured.hasRequiredColumn)
      ("optional field `" ++ f.name ++ "` of `" ++ r.modelName ++ "` nests `" ++
        structured.type.print ++ "`, whose columns are all nullable")
  Step.require (f.defaults.isEmpty || f.defaults.length == columns.length)
    ("field `" ++ f.name ++ "` declares " ++ toString f.defaults.length ++
      " default value(s) for " ++ toString columns.length ++ " column(s)")
  return {
    name := f.name
    type := f.type
    columns := columns
    primaryKey := isPrimaryKey r f
    unique := f.unique
    nullable := f.nullable || f.type.isOption
    defaults := f.defaults
    kind := kind }

-- =============================================================== checks

/-- At most one field is the primary key, and it has one column and is
not nullable. -/
def checkPrimaryKey (r : TableRequest) (fields : List TableField) : Step Unit :=
  match fields.filter (·.primaryKey) with
  | [] => pure ()
  | [key] => do
    Step.require (key.columnCount == 1)
      ("primary key `" ++ key.name ++ "` of `" ++ r.modelName ++
        "` must be stored in a single column, found " ++ toString key.columnCount)
    Step.require (!key.nullable)
      ("primary key `" ++ key.name ++ "` of `" ++ r.modelName ++ "` cannot be nullable")
  | keys =>
    Step.reject ("model `" ++ r.modelName ++ "` has several primary key fields: " ++
      String.intercalate ", " (keys.map fun key => "`" ++ key.name ++ "`"))

/-- The columns of some fields, each with the field that owns it. -/
def ownedColumns (fields : List TableField) : List (String × String) :=
  fields.flatMap fun f => f.columns.map fun c => (c.name, f.name)

/-- The first column whose name an earlier one has, with the owners of
the latest such column and of the column itself. -/
def clash? : List (String × String) → List (String × String) → Option (String × String × String)
  | _, [] => none
  | seen, (column, owner) :: rest =>
    match seen.find? fun s => s.1 = column with
    | some (_, earlier) => some (column, earlier, owner)
    | none => clash? ((column, owner) :: seen) rest

/-- The names of the columns are distinct. -/
def checkColumns (fields : List TableField) : Step Unit :=
  match clash? [] (ownedColumns fields) with
  | none => pure ()
  | some (column, earlier, owner) =>
    Step.reject ("column `" ++ column ++ "` is declared by both `" ++ earlier ++ "` and `" ++
      owner ++ "`")

/-- The fields a bridge names are references. -/
def checkBridge (r : TableRequest) (fields : List TableField) : Step Unit :=
  match r.bridge with
  | none => pure ()
  | some bridge =>
    [bridge.left, bridge.right].forM fun name =>
      match fields.find? fun f => f.name == name with
      | some f =>
        Step.require f.isReference
          ("bridge field `" ++ name ++ "` of `" ++ r.modelName ++ "` must be a foreign key")
      | none =>
        Step.reject ("bridge field `" ++ name ++ "` is not declared by `" ++ r.modelName ++ "`")

/-- The checks on a finished table. -/
def checkTable (r : TableRequest) (fields : List TableField) : Step Unit := do
  Step.require (!fields.isEmpty) ("model `" ++ r.modelName ++ "` has no fields")
  checkPrimaryKey r fields
  checkColumns fields
  checkBridge r fields

-- ================================================================ steps

/-- Registers the model at a position under all its types, none of which
may be taken. -/
def register (models : List TableRequest) (lookup : List (TypeExpr × TableId)) (id : TableId)
    (r : TableRequest) : Except Failure (List (TypeExpr × TableId)) := do
  r.lookupKeys.forM fun key =>
    match findAssoc? lookup key with
    | none => pure ()
    | some taken =>
      throw (.structural ("duplicate model registered under key `" ++ key.print ++ "`: `" ++
        ((models[taken]?).map fun m => m.model.print).getD "" ++ "` and `" ++ r.model.print ++
        "`"))
  return r.lookupKeys.foldl (fun lookup key => putAssoc lookup key id) lookup

/-- Registers all models, in order. -/
def registerAll (models : List TableRequest) : Except Failure (List (TypeExpr × TableId)) :=
  models.zipIdx.foldlM
    (fun lookup (r, id) =>
      match register models lookup id r with
      | .ok lookup => .ok lookup
      | .error e => .error (e.whileProcessing r.modelName none))
    []

/-- Resolves the model at a position and checks its table. -/
def completeTable (env : Setting) (id : TableId) (r : TableRequest) : Step Unit := do
  let decls ← Step.located r.modelName none (env.ask r.model)
  let fields ← decls.mapM fun f => Step.located r.modelName (some f.name) (tableField env r f)
  Step.located r.modelName none (checkTable r fields)
  modify fun p => { p with
    tables := p.tables ++ [{
      id := id
      name := r.table
      accessor := r.accessor
      model := r.model
      bridge := r.bridge
      fields := fields }] }

/-- Compares a foretold primary key with the one the table was given. -/
def checkPrediction (tables : List Table) (p : Prediction) : Step Unit :=
  let actual := ((tables[p.table]?).bind Table.primaryKey?).map fun key => (key.name, key.valueType)
  let found := match actual with
    | some (name, type) => "`" ++ name ++ ": " ++ type.print ++ "`"
    | none => "no primary key"
  Step.located p.model (some p.field)
    (Step.require (actual == some (p.key, p.type))
      ("primary key of `" ++ ((tables[p.table]?).map Table.modelName).getD "" ++
        "` was derived as `" ++ p.key ++ ": " ++ p.type.print ++ "` while resolving `" ++ p.model ++
        "`, but the completed table has " ++ found))

/-- All steps after the models are registered. -/
def resolveAll (env : Setting) (structures : List TypeExpr) : Step Unit := do
  env.models.zipIdx.forM fun (r, id) => completeTable env id r
  let p ← get
  p.predictions.forM (checkPrediction p.tables)
  structures.forM fun type => do
    let _ ← Step.located type.name none (structureOf env type)

/-- Resolves a request into a schema by whatever answers are given, with
room for so many nested structures under construction at once. -/
def resolveWithin (room : Nat)
    (answers : List TypeExpr → TypeExpr → Except Failure (List FieldDecl)) (locator : Locator)
    (request : Request) : Except Failure Schema := do
  let lookup ← registerAll request.models
  let env : Setting := ⟨answers, room, locator, request.models, lookup⟩
  let (_, p) ← (resolveAll env request.structures).run .start
  return ⟨p.tables, p.structures, lookup⟩

/-- Resolves a request into a schema. Structures under construction are
distinct types that can be described, so there is always room for one
more as long as none contains itself. -/
def resolve (describer : Describer) (locator : Locator) (request : Request) :
    Except Failure Schema :=
  resolveWithin describer.declared.length describer.fields locator request

end Rowsmith

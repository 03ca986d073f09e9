/-
What generated code does, before it is text: how a row is read into a
model, how a model is written into parameters, and how the adapter of a
nested structure takes one apart and puts it together.

Reading consumes the columns of a row from left to right. A field is read
through the getters of its columns; a reference is read through its key
and, where the policy follows it, through the accessor of the referenced
table, which goes on from the next column. When a reference or an optional
value is absent, the columns of the value that is not there are skipped.

Writing fills one slot for each column. A value of one column is written
in its place; the slots of an adapter are left null at first, and the
adapter fills them from the first one on.
-/
import Rowsmith.Schema.Follow

namespace Rowsmith.Emit

-- ================================================================ names

/-- An adapter, by its path if it exists and by the type it adapts if it
is generated. -/
inductive AdapterName
  | provided (path : String)
  | generated (type : TypeExpr)
deriving DecidableEq, Repr

-- =========================================================== parameters

/-- A column as a parameter: what an adapter builds its value from. -/
structure Param where
  -- The name of the column, which is also that of the parameter.
  name : String
  storage : Storage
  -- The column may be null, and the parameter is optional.
  optional : Bool
deriving DecidableEq, Repr

/-- The columns of an existing adapter, none of which may be null. -/
def providedParams (a : ProvidedAdapter) : List Param :=
  a.columns.map fun c => ⟨c.name, c.storage, false⟩

/-- The name of a part under an enclosing part. -/
def paramName (outer : Option String) (name : String) : String :=
  match outer with
  | some outer => Naming.compound outer name
  | none => name

mutual

/-- The parameters of a part. At the outermost level a name is the
storage name itself; deeper ones begin with that of the enclosing
part. -/
def paramsOf (outer : Option String) : Part → List Param
  | .native head storage => [⟨paramName outer head.storageName, storage, head.type.isOption⟩]
  | .mapped head conversion =>
    [⟨paramName outer head.storageName, conversion.storage, head.type.isOption⟩]
  | .adapted head adapter =>
    (adapter.columnsUnder (paramName outer head.storageName)).map fun c => ⟨c.name, c.storage, false⟩
  | .nested head _ parts => paramsOfAll (some (paramName outer head.storageName)) parts

/-- The parameters of several parts, in order. -/
def paramsOfAll (outer : Option String) : List Part → List Param
  | [] => []
  | part :: rest => paramsOf outer part ++ paramsOfAll outer rest

end

/-- The parameters of a nested structure, one for each column. -/
def structureParams (s : Structure) : List Param := paramsOfAll none s.parts

-- ============================================================== reading

/-- A call that reads the next column. -/
structure Getter where
  storage : Storage
  -- The column may be null.
  optional : Bool
deriving DecidableEq, Repr

def Param.getter (p : Param) : Getter := ⟨p.storage, p.optional⟩

/-- What is read of a reference under one policy. -/
structure ReferenceArm where
  -- The policy under which it is asked for.
  policy : FollowPolicy
  -- The policy under which the referenced table is read, if it is.
  entity : Option FollowPolicy
  -- How many columns are skipped when the reference is absent.
  skip : Nat
deriving DecidableEq, Repr

/-- How a reference is read. -/
structure ReferenceRead where
  target : Reference
  -- The key may be null, or zero if it is an integer.
  nullable : Bool
  -- The reference is declared optional.
  optional : Bool
  arms : List ReferenceArm
deriving DecidableEq, Repr

/-- How a field is read. -/
inductive FieldRead
  -- As the value of its column.
  | column (getter : Getter)
  -- As the converted value of its column.
  | converted (getter : Getter) (conversion : Conversion)
  -- Through an adapter. An optional value is absent only when all its
  -- columns are null, since one that is present may hold nulls itself.
  | assembled (adapter : AdapterName) (getters : List Getter) (optional : Bool)
  -- As a reference.
  | reference (read : ReferenceRead)
deriving DecidableEq, Repr

/-- What is read of a reference of a table under a policy. -/
def referenceArm (s : Schema) (id : TableId) (f : TableField) (r : Reference)
    (policy : FollowPolicy) : ReferenceArm :=
  let effective := s.effective id policy
  { policy := policy
    entity := if effective.follows then some effective.next else none
    skip := if effective.follows && f.nullable then s.columnCount r.table effective.next else 0 }

/-- How a field of a table is read. -/
def fieldRead (s : Schema) (id : TableId) (f : TableField) : Except Defect FieldRead :=
  match f.kind with
  | .native => do return .column ⟨(← f.column).storage, f.nullable⟩
  | .mapped conversion => do return .converted ⟨(← f.column).storage, f.nullable⟩ conversion
  | .adapted adapter =>
    .ok (.assembled (.provided adapter.path) ((providedParams adapter).map Param.getter)
      f.isOptional)
  | .nested structured =>
    .ok (.assembled (.generated structured.type) ((structureParams structured).map Param.getter)
      f.isOptional)
  | .reference r =>
    .ok (.reference {
      target := r
      nullable := f.nullable
      optional := f.isOptional
      arms := FollowPolicy.policies.map (referenceArm s id f r) })

-- ============================================================== writing

/-- How the columns of a field are written. -/
inductive FieldWrite
  -- Its value goes into one slot.
  | stored (field : String)
  -- Its converted value goes into one slot.
  | converted (field : String) (conversion : Conversion) (optional : Bool)
  -- An adapter fills so many slots, from the given one on.
  | filled (field : String) (adapter : AdapterName) (optional : Bool) (start count : Nat)
deriving DecidableEq, Repr

/-- How a field whose first slot is `start` is written. -/
def fieldWrite (start : Nat) (f : TableField) : FieldWrite :=
  match f.kind with
  | .native => .stored f.name
  | .reference _ => .stored f.name
  | .mapped conversion => .converted f.name conversion f.nullable
  | .adapted adapter => .filled f.name (.provided adapter.path) f.isOptional start f.columnCount
  | .nested structured =>
    .filled f.name (.generated structured.type) f.isOptional start f.columnCount

/-- How fields are written whose slots follow one another from `start`
on. -/
def fieldWrites : Nat → List TableField → List FieldWrite
  | _, [] => []
  | start, f :: rest => fieldWrite start f :: fieldWrites (start + f.columnCount) rest

/-- The fields of an update of a row by its key: those outside the key,
then the key. A table without a key or without anything else has no such
update. -/
def updateFields? (t : Table) : Option (List TableField) :=
  match t.primaryKey?, t.fields.filter (fun f => !f.primaryKey) with
  | some key, f :: rest => some (f :: rest ++ [key])
  | _, _ => none

-- ============================================================= adapters

/-- How a part of a structure is put together from parameters. -/
inductive PartBuild
  -- It is the parameter.
  | given (param : Param)
  -- It is the converted parameter.
  | converted (param : Param) (conversion : Conversion) (optional : Bool)
  -- An adapter builds it from parameters.
  | assembled (adapter : AdapterName) (params : List Param)
deriving DecidableEq, Repr

/-- How a part is put together from the parameters that are its own. -/
def partBuild (own : List Param) : Part → PartBuild
  | .native head storage => .given (own.headD ⟨head.storageName, storage, head.type.isOption⟩)
  | .mapped head conversion =>
    .converted (own.headD ⟨head.storageName, conversion.storage, head.type.isOption⟩) conversion
      head.type.isOption
  | .adapted _ adapter => .assembled (.provided adapter.path) own
  | .nested _ type _ => .assembled (.generated type) own

/-- How parts are put together, each taking its own number of parameters
from the front. -/
def partBuilds : List Param → List Part → List (PartHead × PartBuild)
  | _, [] => []
  | params, part :: rest =>
    (part.head, partBuild (params.take part.columnCount) part) ::
      partBuilds (params.drop part.columnCount) rest

/-- How a part of a structure is written. -/
inductive PartWrite
  -- Its value goes into a slot.
  | stored (slot : Nat)
  -- Its converted value goes into a slot.
  | converted (slot : Nat) (conversion : Conversion) (optional : Bool)
  -- An adapter fills the slots from the given one on.
  | filled (slot : Nat) (adapter : AdapterName)
deriving DecidableEq, Repr

/-- How a part whose first slot is `start` is written. -/
def partWrite (start : Nat) : Part → PartWrite
  | .native _ _ => .stored start
  | .mapped head conversion => .converted start conversion head.type.isOption
  | .adapted _ adapter => .filled start (.provided adapter.path)
  | .nested _ type _ => .filled start (.generated type)

/-- How parts are written whose slots follow one another from `start`
on. -/
def partWrites : Nat → List Part → List (PartHead × PartWrite)
  | _, [] => []
  | start, part :: rest =>
    (part.head, partWrite start part) :: partWrites (start + part.columnCount) rest

end Rowsmith.Emit

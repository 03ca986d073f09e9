/-
Nested structures: structures that are not tables of their own but spread
over columns of the table that holds them. A structure is a type and its
parts; a part is stored in one column, or through an existing adapter, or
is again a structure.

Each structure is resolved once in a run, and every field that nests its
type holds the same parts.
-/
import Rowsmith.Schema.Column

namespace Rowsmith

/-- What all parts have: the identifier, the storage name and the
declared type of the field. -/
structure PartHead where
  -- The identifier of the field.
  name : String
  -- The column, or what the names of the columns begin with.
  storageName : String
  -- The declared type, an optional type included.
  type : TypeExpr
deriving DecidableEq, Repr

/-- A part of a nested structure. -/
inductive Part
  -- One column holding the value as it is.
  | native (head : PartHead) (storage : Storage)
  -- One column holding the converted value.
  | mapped (head : PartHead) (conversion : Conversion)
  -- The columns of an existing adapter.
  | adapted (head : PartHead) (adapter : ProvidedAdapter)
  -- The columns of another structure, given by its type and parts.
  | nested (head : PartHead) (type : TypeExpr) (parts : List Part)
deriving Repr

/-- A resolved nested structure. -/
structure Structure where
  type : TypeExpr
  parts : List Part
deriving Repr

namespace Part

def head : Part → PartHead
  | .native head _ => head
  | .mapped head _ => head
  | .adapted head _ => head
  | .nested head _ _ => head

/-- The field is declared optional. -/
def isOptional (p : Part) : Bool := p.head.type.isOption

mutual

/-- The columns of a part whose names begin with `outer`. -/
def columns (outer : String) : Part → List Column
  | .native head storage => [⟨Naming.compound outer head.storageName, storage⟩]
  | .mapped head conversion => [⟨Naming.compound outer head.storageName, conversion.storage⟩]
  | .adapted head adapter => adapter.columnsUnder (Naming.compound outer head.storageName)
  | .nested head _ parts => columnsAll (Naming.compound outer head.storageName) parts

/-- The columns of several parts, in order. -/
def columnsAll (outer : String) : List Part → List Column
  | [] => []
  | part :: rest => columns outer part ++ columnsAll outer rest

end

mutual

/-- The number of columns of a part. -/
def columnCount : Part → Nat
  | .native _ _ => 1
  | .mapped _ _ => 1
  | .adapted _ adapter => adapter.columns.length
  | .nested _ _ parts => columnCountAll parts

/-- The number of columns of several parts. -/
def columnCountAll : List Part → Nat
  | [] => 0
  | part :: rest => columnCount part + columnCountAll rest

end

mutual

/-- The part has a column that is set whenever the structure is: it is
not optional, and if it is a structure itself, that one has such a
column. -/
def isRequired : Part → Bool
  | .native head _ => !head.type.isOption
  | .mapped head _ => !head.type.isOption
  | .adapted head adapter => !head.type.isOption && adapter.columns.length > 0
  | .nested head _ parts => !head.type.isOption && isRequiredAny parts

/-- One of several parts has a column that is always set. -/
def isRequiredAny : List Part → Bool
  | [] => false
  | part :: rest => isRequired part || isRequiredAny rest

end

end Part

namespace Structure

/-- The columns of a structure, whose names begin with `outer`. -/
def columns (s : Structure) (outer : String) : List Column :=
  Part.columnsAll outer s.parts

def columnCount (s : Structure) : Nat := Part.columnCountAll s.parts

/-- Some column is always set, so that a stored value can be told from an
absent one. -/
def hasRequiredColumn (s : Structure) : Bool := Part.isRequiredAny s.parts

/-- The name of the adapter generated for a structure. -/
def adapterName (s : Structure) : String := Naming.adapterName s.type.name

end Structure

end Rowsmith

/-
Declared fields: what is known of a field of a model or of a nested
structure before it is decided how it is stored.
-/
import Rowsmith.Storage
import Rowsmith.Naming

namespace Rowsmith

/-- A conversion declared on a field itself. -/
inductive InlineConversion
  -- The type of the field is an enumeration with these variants.
  | ordinal (variants : List String)
  -- The type at a path converts the field.
  | provided (path : String) (storage : Storage)
deriving DecidableEq, Repr

/-- One declared field. -/
structure FieldDecl where
  -- The identifier of the field.
  name : String
  -- The declared type, an optional type included.
  type : TypeExpr
  -- The field may be null.
  nullable : Bool
  -- The field is marked as the primary key.
  primaryKey : Bool
  unique : Bool
  -- The storage name written on the field; where the field has several
  -- columns, all their names begin with it.
  column : Option String
  -- Default expressions, one for each column, or none.
  defaults : List String
  inline : Option InlineConversion
deriving DecidableEq, Repr

namespace FieldDecl

/-- A field without options. Only an optional type makes it nullable. -/
def plain (name : String) (type : TypeExpr) : FieldDecl where
  name := name
  type := type
  nullable := type.isOption
  primaryKey := false
  unique := false
  column := none
  defaults := []
  inline := none

/-- The storage name: the one written on the field, or else the one
derived from its identifier. -/
def storageName (f : FieldDecl) : String :=
  f.column.getD (Naming.storageName f.name)

end FieldDecl

end Rowsmith

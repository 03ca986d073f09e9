/-
What a source file declares, as far as it matters for storage: structures
and enumerations with their attributes, the names brought into scope, and
the modules in which all these stand. Every other item is one that is
there.

Types are kept as they are written, before names are resolved.
-/
import Rowsmith.Source.Token
import Rowsmith.TypeExpr

namespace Rowsmith.Source

/-- A type as it is written. -/
inductive SourceType
  -- A path: the names of its segments, and the types among the generic
  -- arguments of the last.
  | path (segments : List String) (args : List SourceType)
  -- Any other type, by its shape and its text.
  | verbatim (shape : TypeShape) (text : String)
deriving Repr, Inhabited

/-- What an import brings into scope, as a tree of paths. -/
inductive UseTree
  -- A tree below a module.
  | under (segment : String) (tree : UseTree)
  -- A name, or the module itself.
  | leaf (name : String)
  -- A name, or the module itself, under another name.
  | renamed (name given : String)
  -- All names of a module.
  | all
  -- Several trees.
  | several (trees : List UseTree)
deriving Repr, Inhabited

/-- What follows the path of an attribute. -/
inductive AttributeBody
  -- Nothing.
  | bare
  -- A value; where its equals sign stands.
  | valued (equals : Position)
  -- Arguments in brackets; where they end.
  | listed (tokens : List TokenTree) (closed : Position)
deriving Repr

/-- An attribute. -/
structure Attribute where
  pos : Position
  -- The segments of its path, with a first empty one if it begins with a
  -- double colon.
  path : List String
  body : AttributeBody
deriving Repr

/-- A named field. -/
structure FieldItem where
  attributes : List Attribute
  name : String
  type : SourceType
deriving Repr

/-- The fields of a structure. -/
inductive Fields
  | named (fields : List FieldItem)
  | positional
  | absent
deriving Repr

/-- A structure. -/
structure StructItem where
  attributes : List Attribute
  name : String
  namePos : Position
  -- Where its type parameters begin, if it has any.
  generics : Option Position
  fields : Fields
deriving Repr

/-- A variant of an enumeration. -/
structure Variant where
  name : String
  -- It carries no data.
  isUnit : Bool
  -- The number written for it, as text.
  discriminant : Option String
deriving DecidableEq, Repr

/-- An enumeration. -/
structure EnumItem where
  name : String
  variants : List Variant
deriving DecidableEq, Repr

/-- An item of a module. -/
inductive Item
  | structured (item : StructItem)
  | enumeration (item : EnumItem)
  | imports (tree : UseTree)
  | module (name : String) (items : List Item)
  | other
deriving Repr, Inhabited

end Rowsmith.Source

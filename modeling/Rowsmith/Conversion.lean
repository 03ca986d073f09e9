/-
Conversions between the value of a field and the one value that is
stored for it. Either a type of the crate provides two functions, or the
field is an enumeration without data and the position of the variant is
stored.

A conversion is a pair of expressions in generated code: one that turns
a stored value into the value of the field, and one that turns a
reference to the value of the field into the stored value.
-/
import Rowsmith.Storage

namespace Rowsmith

/-- A two-way conversion between a field and one column. -/
inductive Conversion
  -- The type at a path provides both functions.
  | provided (path : String) (storage : Storage)
  -- An enumeration is stored as the position of its variant.
  | ordinal (type : TypeExpr) (variants : List String)
deriving DecidableEq, Repr

namespace Conversion

/-- How the converted value is stored. -/
def storage : Conversion → Storage
  | .provided _ storage => storage
  | .ordinal _ _ => .int

/-- The type the expressions name, if it has to be in scope. -/
def namedType? : Conversion → Option TypeExpr
  | .provided _ _ => none
  | .ordinal type _ => some type

/-- The expression that turns the stored value `stored` into the value of
the field, where the enumeration goes by `typeName`. -/
def toFieldAs (m : Conversion) (stored typeName : String) : String :=
  match m with
  | .provided path _ => path ++ "::to_field(" ++ stored ++ ")"
  | .ordinal _ variants =>
    "[" ++ String.intercalate ", " (variants.map fun v => typeName ++ "::" ++ v) ++ "][" ++
      stored ++ " as usize]"

/-- The expression that turns the stored value into the value of the
field, where the enumeration goes by its short name. -/
def toField (m : Conversion) (stored : String) : String :=
  m.toFieldAs stored ((m.namedType?.map TypeExpr.name).getD "")

/-- The expression that turns a reference to the value of the field into
the stored value. A method may be called on the result. -/
def toStored (m : Conversion) (reference : String) : String :=
  match m with
  | .provided path _ => path ++ "::to_storage(" ++ reference ++ ")"
  | .ordinal _ _ =>
    match reference.toList with
    | '&' :: place => "(" ++ String.ofList place ++ " as i32)"
    | _ => "(*" ++ reference ++ " as i32)"

end Conversion

end Rowsmith

/-
The wrapper types by which a field refers to another model. Each takes
the referenced model as its last argument; the two-argument wrappers
also take the type of its key, which the one-argument wrappers fix.
-/

namespace Rowsmith

/-- The supported wrappers. -/
inductive ReferenceShape
  | int
  | long
  | object
  | general
deriving DecidableEq, Repr

namespace ReferenceShape

/-- The wrapper with a given type name. -/
def ofName? (name : String) : Option ReferenceShape :=
  if name = "ForeignInt" then some .int
  else if name = "ForeignLong" then some .long
  else if name = "ForeignObj" then some .object
  else if name = "Foreign" then some .general
  else none

/-- The number of arguments of a wrapper. -/
def arity : ReferenceShape → Nat
  | .int | .long => 1
  | .object | .general => 2

/-- The key type that a wrapper fixes. -/
def fixedKey? : ReferenceShape → Option String
  | .int => some "i32"
  | .long => some "i64"
  | .object | .general => none

/-- The type whose constructors build values of the wrapper; the general
wrapper is built like the one for objects. -/
def factory : ReferenceShape → String
  | .int => "ForeignInt"
  | .long => "ForeignLong"
  | .object | .general => "ForeignObj"

end ReferenceShape

end Rowsmith

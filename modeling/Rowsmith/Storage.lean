/-
Storage tags: the twelve ways in which one column holds a value. A tag
pairs the type that generated code reads and writes with the getter that
reads it; which type the column has in a database depends on the flavor
and is decided where tables are created.
-/
import Rowsmith.TypeExpr

namespace Rowsmith

/-- How the value of a column is stored. -/
inductive Storage
  | boolean
  | int
  | long
  | short
  | byte
  | float
  | double
  | string
  | bytes
  | date
  | time
  | timestamp
deriving DecidableEq, Repr

namespace Storage

/-- All tags, in the order in which they are listed to the user. -/
def all : List Storage :=
  [.boolean, .int, .long, .short, .byte, .float, .double, .string, .bytes, .date, .time,
    .timestamp]

/-- The name of a tag in attributes and configuration. -/
def name : Storage → String
  | .boolean => "boolean"
  | .int => "int"
  | .long => "long"
  | .short => "short"
  | .byte => "byte"
  | .float => "float"
  | .double => "double"
  | .string => "string"
  | .bytes => "bytes"
  | .date => "date"
  | .time => "time"
  | .timestamp => "timestamp"

def ofName? (name : String) : Option Storage :=
  all.find? fun tag => tag.name == name

/-- The type of the values in generated code. -/
def valueType : Storage → String
  | .boolean => "bool"
  | .int => "i32"
  | .long => "i64"
  | .short => "i16"
  | .byte => "i8"
  | .float => "f32"
  | .double => "f64"
  | .string => "String"
  | .bytes => "Vec<u8>"
  | .date => "chrono::NaiveDate"
  | .time => "chrono::NaiveTime"
  | .timestamp => "chrono::NaiveDateTime"

/-- What the name of the row getter ends in. -/
def getter : Storage → String
  | .boolean => "bool"
  | .int => "i32"
  | .long => "i64"
  | .short => "i16"
  | .byte => "i8"
  | .float => "f32"
  | .double => "f64"
  | .string => "string"
  | .bytes => "bytes"
  | .date => "date"
  | .time => "time"
  | .timestamp => "timestamp"

/-- The integer tags, among whose values zero stands for an absent
reference. -/
def isInteger : Storage → Bool
  | .int | .long | .short | .byte => true
  | _ => false

/-- The tag of a type without arguments that is stored as it is. -/
def ofPlainPath? (path : String) : Option Storage :=
  if path = "bool" then some .boolean
  else if path = "i8" then some .byte
  else if path = "i16" then some .short
  else if path = "i32" then some .int
  else if path = "i64" then some .long
  else if path = "f32" then some .float
  else if path = "f64" then some .double
  else if path = "String" ∨ path = "std::string::String" then some .string
  else if path = "NaiveDate" ∨ path = "chrono::NaiveDate" then some .date
  else if path = "NaiveTime" ∨ path = "chrono::NaiveTime" then some .time
  else if path = "NaiveDateTime" ∨ path = "chrono::NaiveDateTime" then some .timestamp
  else none

/-- The tag of a type that is stored as it is. A vector is stored as
bytes when the path of its argument is that of the byte type; optional
types are not looked through. -/
def ofNative? : TypeExpr → Option Storage
  | .mk path [] .path => ofPlainPath? path
  | .mk path [arg] .path =>
    if (path = "Vec" ∨ path = "std::vec::Vec") ∧ arg.path = "u8" then some .bytes else none
  | _ => none

/-- A name finds the tag it names. -/
theorem ofName?_name (tag : Storage) : ofName? tag.name = some tag := by
  cases tag <;> decide

end Storage

end Rowsmith

/-
Pieces of generated code that tables and adapters share: literals,
identifiers, blocks, and the expressions by which values are read,
converted and written.
-/
import Rowsmith.Emit.Location
import Rowsmith.Emit.Plan
import Rowsmith.Emit.Uses

namespace Rowsmith.Emit

open Text

/-- The first line of every generated file. -/
def header : String := "// @generated by archgen. Do not edit."

/-- A generated file, its path below the root of the tree. -/
structure SourceFile where
  path : Path
  content : String
deriving DecidableEq, Repr

-- ========================================================== identifiers

/-- Words that are no identifiers unless marked as raw. -/
def keywords : List String :=
  ["as", "async", "await", "break", "const", "continue", "dyn", "else", "enum", "extern", "false",
    "fn", "for", "if", "impl", "in", "let", "loop", "match", "mod", "move", "mut", "pub", "ref",
    "return", "static", "struct", "trait", "true", "type", "unsafe", "use", "where", "while",
    "abstract", "become", "box", "do", "final", "gen", "macro", "override", "priv", "try",
    "typeof", "unsized", "virtual", "yield"]

def ident (name : String) : String :=
  if keywords.contains name then "r#" ++ name else name

def offset (base : String) (index : Nat) : String :=
  if index = 0 then base else base ++ " + " ++ toString index

-- =============================================================== blocks

/-- An opening line, the indented body, and a closing line. -/
def block (opening : String) (body : Lines) (closing : String) : Except Defect Lines := do
  ((← Lines.empty.push opening).appendIndented body 1).push closing

/-- An expression between two texts. The lines of one that has several
keep their indentation. -/
def wrapped (before : String) (expr : Lines) (after : String) : Except Defect Lines :=
  match expr.lines with
  | [] => Lines.empty.push (before ++ after)
  | [line] => Lines.empty.push (before ++ line ++ after)
  | first :: rest => do
    let b ← Lines.empty.push (before ++ first)
    let b ← b.pushAll rest.dropLast
    b.push (rest.getLastD "" ++ after)

def oneLine (line : String) : Except Defect Lines := Lines.empty.push line

def linesOf (lines : List String) : Except Defect Lines := Lines.empty.pushAll lines

-- ============================================================== reading

/-- The expression that reads the next column. -/
def Getter.code (g : Getter) : String :=
  (if g.optional then "row.get_opt_" else "row.get_") ++ g.storage.getter ++ "(start)?"

/-- How a unit calls an adapter. A path of one segment is in scope. -/
def adapterName (target : Target) : AdapterName → Writer String
  | .provided path =>
    if (TypeExpr.cutLast path.toList).isSome then Writer.path path else return path
  | .generated type => Writer.path ((Location.ofAdapter type).fullPath target)

/-- The expression that converts a stored value, mapping over it if it is
optional. -/
def convertedCode (m : Conversion) (stored : String) (optional : Bool) : Writer String := do
  let convert ← match m.namedType? with
    | some type => do
      let name ← Writer.path (cratePath type)
      pure fun expr => m.toFieldAs expr name
    | none => pure m.toField
  return if optional then stored ++ ".map(|value| " ++ convert "value" ++ ")" else convert stored

-- ============================================================== writing

/-- The parameter for the converted value at a place. -/
def convertedValue (m : Conversion) (place : String) (optional : Bool) : String :=
  if optional then
    place ++ ".as_ref().map(|value| " ++ m.toStored "value" ++ ").to_value()"
  else m.toStored ("&" ++ place) ++ ".to_value()"

/-- The statement by which an adapter fills slots of an array with the
value at a place. -/
def fillCode (adapter place array slot : String) (optional : Bool) : Except Defect Lines :=
  if optional then do
    let fill ← oneLine (adapter ++ "::fill_values(value, " ++ array ++ ", " ++ slot ++ ");")
    block ("if let Some(value) = &" ++ place ++ " \x7b") fill "\x7d"
  else oneLine (adapter ++ "::fill_values(&" ++ place ++ ", " ++ array ++ ", " ++ slot ++ ");")

-- ================================================================ units

/-- Assembles a unit: the header, the declarations of the names in use,
and the body. -/
def unitFile (location : Location) (uses : Uses) (body : Lines) : Except Defect SourceFile := do
  let top ← linesOf [header, ""]
  let declarations ← linesOf uses.declarations
  let content := (← (top ++ declarations).push "") ++ body
  return ⟨location.file, content.text ++ "\n"⟩

end Rowsmith.Emit

/-
The adapter of a nested structure: a type without data that lists the
columns of the structure, builds a value from one argument for each
column, and writes a value into consecutive slots of a parameter array.
-/
import Rowsmith.Emit.Code

namespace Rowsmith.Emit

open Text

def Param.code (p : Param) : String :=
  if p.optional then "Option<" ++ p.storage.valueType ++ ">" else p.storage.valueType

/-- The expression that puts a part together. -/
def buildCode (target : Target) : PartBuild → Writer String
  | .given param => return ident param.name
  | .converted param conversion optional => convertedCode conversion (ident param.name) optional
  | .assembled adapter params => do
    let adapter ← adapterName target adapter
    return adapter ++ "::create_instance(" ++
      commaJoin (params.map fun param => ident param.name) ++ ")"

/-- The function that builds a value from one argument for each column. -/
def createInstanceFunction (target : Target) (s : Structure) (type : String) :
    Writer Lines := do
  let params := structureParams s
  let fields ← (partBuilds params s.parts).foldlM (fun (fields : Lines) (head, build) => do
    let name := ident head.name
    let value ← buildCode target build
    fields.push (if value = name then name ++ "," else name ++ ": " ++ value ++ ",")) Lines.empty
  let signature ← linesOf (["pub fn create_instance("] ++
    (params.map fun param => "    " ++ ident param.name ++ ": " ++ param.code ++ ",") ++
    [") -> " ++ type ++ " \x7b"])
  (signature.appendIndented (← block (type ++ " \x7b") fields "\x7d") 1).push "\x7d"

/-- The statement that writes a part. -/
def writeCode (target : Target) (head : PartHead) : PartWrite → Writer Lines
  | .stored slot => do
    let _ ← Writer.item .toValue
    oneLine ("array[" ++ offset "start" slot ++ "] = param." ++ ident head.name ++
      ".to_value();")
  | .converted slot conversion optional => do
    let _ ← Writer.item .toValue
    oneLine ("array[" ++ offset "start" slot ++ "] = " ++
      convertedValue conversion ("param." ++ ident head.name) optional ++ ";")
  | .filled slot adapter => do
    fillCode (← adapterName target adapter) ("param." ++ ident head.name) "array"
      (offset "start" slot) false

/-- The function that writes a value into an array, from a slot on. -/
def fillValuesFunction (target : Target) (s : Structure) (type : String) : Writer Lines := do
  let value ← Writer.item .value
  let body ← (partWrites 0 s.parts).foldlM (fun (body : Lines) (head, write) => do
    return body ++ (← writeCode target head write)) Lines.empty
  block ("pub fn fill_values(param: &" ++ type ++ ", array: &mut [" ++ value ++
    "], start: usize) \x7b") body "\x7d"

/-- The function that writes a value into an array of its own. -/
def newValuesFunction (type : String) (count : Nat) : Writer Lines := do
  let value ← Writer.item .value
  let body ← linesOf [
    "let mut array = vec![" ++ value ++ "::Null; " ++ toString count ++ "];",
    "Self::fill_values(param, &mut array, 0);",
    "array"]
  block ("pub fn to_new_values(param: &" ++ type ++ ") -> Vec<" ++ value ++ "> \x7b") body
    "\x7d"

/-- The adapter of a nested structure. -/
def adapterUnit (target : Target) (s : Structure) : Except Defect SourceFile := do
  let params := structureParams s
  let write : Writer Lines := do
    let type ← Writer.path (cratePath s.type)
    let columns ← linesOf ["pub const COLUMNS: [&'static str; " ++ toString params.length ++
      "] = [" ++ commaJoin (params.map fun param => quoted param.name) ++ "];", ""]
    let create ← createInstanceFunction target s type
    let fill ← fillValuesFunction target s type
    let fresh ← newValuesFunction type params.length
    let items := (← ((← (columns ++ create).push "") ++ fill).push "") ++ fresh
    let declaration ← linesOf ["pub struct " ++ s.adapterName ++ ";", ""]
    return declaration ++ (← block ("impl " ++ s.adapterName ++ " \x7b") items "\x7d")
  let (body, uses) ← write.run (.start target.runtime s.adapterName)
  unitFile (.ofAdapter s.type) uses body

end Rowsmith.Emit

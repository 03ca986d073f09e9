/-
The names a generated unit brings into scope. A unit calls a type by the
last segment of its path when that name is free, and by the whole path
otherwise; a name is taken by an earlier path, by the unit itself and by
every item of the runtime, whether the unit uses it or not.
-/
import Rowsmith.Text.Lines
import Rowsmith.TypeExpr

namespace Rowsmith.Emit

open Text

/-- What the runtime provides to generated code. -/
inductive RuntimeItem
  | flavor
  | foreignInt
  | foreignLong
  | foreignObj
  | readFollow
  | row
  | rowError
  | toValue
  | value
deriving DecidableEq, Repr

namespace RuntimeItem

/-- All items, in the order of their names. -/
def all : List RuntimeItem :=
  [.flavor, .foreignInt, .foreignLong, .foreignObj, .readFollow, .row, .rowError, .toValue,
    .value]

def name : RuntimeItem → String
  | .flavor => "Flavor"
  | .foreignInt => "ForeignInt"
  | .foreignLong => "ForeignLong"
  | .foreignObj => "ForeignObj"
  | .readFollow => "ReadFollow"
  | .row => "Row"
  | .rowError => "RowError"
  | .toValue => "ToValue"
  | .value => "Value"

end RuntimeItem

/-- The declarations of one unit so far. -/
structure Uses where
  -- The path of the runtime.
  runtime : String
  -- The type the unit defines.
  own : String
  -- The runtime items in use.
  items : List RuntimeItem
  -- The names brought into scope, each with the path it stands for, in
  -- the order in which they were first used.
  names : List (String × String)
deriving DecidableEq, Repr

namespace Uses

def start (runtime own : String) : Uses := ⟨runtime, own, [], []⟩

/-- The path that a name stands for. -/
def pathOf? (u : Uses) (name : String) : Option String :=
  (u.names.find? fun n => n.1 = name).map (·.2)

/-- A name that cannot stand for a path because the unit or the runtime
has it. -/
def isReserved (u : Uses) (name : String) : Bool :=
  (RuntimeItem.all.map RuntimeItem.name).contains name || u.own == name

def useItem (u : Uses) (item : RuntimeItem) : Uses :=
  if u.items.contains item then u else { u with items := u.items ++ [item] }

/-- Uses the type at a path; says how the unit calls it. -/
def usePath (u : Uses) (path : String) : String × Uses :=
  let name := TypeExpr.lastSegment path
  match u.pathOf? name with
  | some known => (if known = path then name else path, u)
  | none =>
    if u.isReserved name then (path, u)
    else (name, { u with names := u.names ++ [(name, path)] })

/-- The names of the runtime items in use, sorted. -/
def itemNames (u : Uses) : List String :=
  (RuntimeItem.all.filter fun item => u.items.contains item).map RuntimeItem.name

/-- The paths in use, sorted, each once. -/
def paths (u : Uses) : List String :=
  ((u.names.map (·.2)).mergeSort fun a b => a ≤ b).eraseDups

/-- The declaration of the runtime items, of which a single one goes
without braces. -/
def runtimeLine (u : Uses) : List String :=
  match u.itemNames with
  | [] => []
  | [item] => ["use " ++ u.runtime ++ "::" ++ item ++ ";"]
  | items => ["use " ++ u.runtime ++ "::\x7b" ++ commaJoin items ++ "\x7d;"]

/-- The declarations: the runtime first, then the paths. -/
def declarations (u : Uses) : List String :=
  u.runtimeLine ++ u.paths.map fun path => "use " ++ path ++ ";"

end Uses

/-- A step in writing a unit: it may run into a defect, and otherwise may
bring names into scope. -/
abbrev Writer := StateT Uses (Except Defect)

namespace Writer

/-- Uses an item of the runtime and names it. -/
def item (i : RuntimeItem) : Writer String := do
  modify fun u => u.useItem i
  return i.name

/-- Uses the type at a path and says how the unit calls it. -/
def path (p : String) : Writer String :=
  modifyGet fun u => u.usePath p

end Writer

end Rowsmith.Emit

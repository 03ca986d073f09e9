/-
From sources to a catalog. All files are read first, so that a name can be
found wherever it is declared; then every structure is described in the
order of the sources.

A structure that cannot be stored, because it has type parameters or no
named fields, is recorded with the reason, unless it carries the tool's
attributes: then it was meant to be stored, and the sources are refused.
So is an enumeration whose variants carry data recorded; one without data
is stored as the position of the variant.
-/
import Rowsmith.Source.Options
import Rowsmith.Source.Scope
import Rowsmith.Stop
import Rowsmith.TypeExpr.Reader

namespace Rowsmith.Source

/-- A source text and the module it makes up. -/
structure SourceText where
  path : String
  -- The path of the module from the crate; the crate itself has the
  -- empty path.
  module : String
  text : String
deriving DecidableEq, Repr

/-- An item with the file and module it stands in. -/
structure Placed (α : Type) where
  file : String
  module : String
  item : α

/-- The items of all sources: structures, enumerations, and what every
module imports. -/
structure Collected where
  structs : List (Placed StructItem)
  enums : List (Placed EnumItem)
  imports : List (String × Imports)

namespace Collected

def empty : Collected := ⟨[], [], []⟩

def importsOf (c : Collected) (module : String) : Imports :=
  (findAssoc? c.imports module).getD []

mutual

/-- Adds an item of a module, and what is in it if it is a module. -/
def add (file module : String) (c : Collected) : Item → Collected
  | .structured item => { c with structs := c.structs ++ [⟨file, module, item⟩] }
  | .enumeration item => { c with enums := c.enums ++ [⟨file, module, item⟩] }
  | .imports tree =>
    { c with imports := putAssoc c.imports module ((c.importsOf module).add module tree) }
  | .module name items => addAll file (pathIn module (plainName name)) c items
  | .other => c

def addAll (file module : String) (c : Collected) : List Item → Collected
  | [] => c
  | item :: rest => addAll file module (add file module c item) rest

end

def structPath (s : Placed StructItem) : String := pathIn s.module (plainName s.item.name)

def enumPath (e : Placed EnumItem) : String := pathIn e.module (plainName e.item.name)

/-- The paths of all declarations, each once. -/
def declared (c : Collected) : List String :=
  (c.structs.map structPath ++ c.enums.map enumPath).eraseDups

/-- The enumerations without data, by path, with their variants. -/
def ordinals (c : Collected) : List (String × List String) :=
  (c.enums.filter fun e => e.item.variants.all (·.isUnit)).foldl
    (fun found e => putAssoc found (enumPath e) (e.item.variants.map (·.name))) []

def scopeOf (c : Collected) (module : String) : Scope where
  module := module
  imports := c.importsOf module
  declared := c.declared

end Collected

-- =========================================================== describing

def describeField (scope : Scope) (ordinals : List (String × List String)) (f : FieldItem) :
    Except SyntaxError FieldDecl := do
  let given ← FieldOptions.ofAttributes f.attributes
  let base := FieldDecl.plain (plainName f.name) (scope.canonical f.type)
  return { base with
    nullable := base.nullable || given.nullable
    primaryKey := given.primaryKey
    unique := given.unique
    column := given.column
    defaults := given.defaults
    inline := match given.conversion with
      | some (path, storage) => some (.provided path storage)
      | none => (findAssoc? ordinals base.type.valueType.path).map .ordinal }

/-- Why a structure cannot be stored: the refusal if it was meant to be,
and the reason recorded otherwise. -/
def unstorable? (s : StructItem) : Option (SyntaxError × String) :=
  match s.generics, s.fields with
  | some pos, _ => some (⟨pos, .genericModel⟩, "generic structs cannot be stored")
  | none, .named _ => none
  | none, _ => some (⟨s.namePos, .unnamedFields⟩, "only structs with named fields can be stored")

/-- What became of a structure. -/
inductive Described
  | declared (decl : StructDecl)
  | rejected (reason : String)
  -- It is refused, for one or more reasons; what could be described of
  -- it may come with them.
  | refused (errors : List SyntaxError) (decl : Option StructDecl)
deriving Repr

/-- The results of several attempts: the successes and the failures, each
in order. -/
def partitionResults {ε α : Type} : List (Except ε α) → List ε × List α
  | [] => ([], [])
  | .error e :: rest => ((e :: (partitionResults rest).1), (partitionResults rest).2)
  | .ok a :: rest => ((partitionResults rest).1, a :: (partitionResults rest).2)

/-- Describes a structure that is known by a type. -/
def describeStruct (c : Collected) (s : Placed StructItem) (type : TypeExpr) : Described :=
  match StructOptions.ofAttributes s.item.attributes with
  | .error e => .refused [e] none
  | .ok options =>
    match unstorable? s.item, options with
    | some (e, _), some _ => .refused [e] none
    | some (_, reason), none => .rejected reason
    | none, _ =>
      let scope := c.scopeOf s.module
      let given := options.getD .none
      let fields := match s.item.fields with
        | .named fields => fields
        | _ => []
      let (errors, described) :=
        partitionResults (fields.map (describeField scope c.ordinals))
      let decl : StructDecl := {
        type := type
        fields := described
        isModel := given.isModel
        table := given.table
        accessor := given.accessor
        keys := given.keys.map scope.canonical
        bridge := given.bridge.map fun (left, right) => ⟨plainName left, plainName right⟩ }
      if errors.isEmpty then .declared decl else .refused errors (some decl)

/-- The failure that lists refusals, one to a line. -/
def refusal (file : String) (errors : List SyntaxError) : Failure :=
  .adhoc (String.intercalate "\n" (errors.map fun e => e.text file))

/-- Adds what became of a structure to a catalog. A second declaration of
a type fails even if the structure is also refused. -/
def addStruct (c : Collected) (catalog : Catalog) (s : Placed StructItem) :
    Except Stop Catalog := do
  let type ← Stop.ofDefect (TypeExpr.ofText (Collected.structPath s))
  match describeStruct c s type with
  | .declared decl => Stop.ofFailure (catalog.insert decl)
  | .rejected reason => return catalog.reject type reason
  | .refused errors decl =>
    if let some decl := decl then
      let _ ← Stop.ofFailure (catalog.insert decl)
    throw (.failure (refusal s.file errors))

/-- Adds the reason why an enumeration cannot be stored, if it has variants
with data. -/
def addEnum (catalog : Catalog) (e : Placed EnumItem) : Except Stop Catalog :=
  if e.item.variants.all (·.isUnit) then .ok catalog
  else do
    let type ← Stop.ofDefect (TypeExpr.ofText (Collected.enumPath e))
    return catalog.reject type
      ("enum `" ++ e.item.name ++ "` has variants with data, which cannot be stored")

def itemsOf (s : SourceText) : Except Failure (List Item) :=
  (parseFile s.text).mapError fun pos =>
    .adhoc ("failed to parse `" ++ s.path ++ "`: " ++ pos.text)

/-- The items of sources that were read. -/
def collect (sources : List (SourceText × List Item)) : Collected :=
  sources.foldl (fun c (s, items) => c.addAll s.path s.module items) .empty

/-- The catalog of items that were collected. -/
def catalogOf (c : Collected) : Except Stop Catalog := do
  c.structs.foldlM (addStruct c) (← c.enums.foldlM addEnum .empty)

/-- The catalog of the structures that sources declare. -/
def parseSources (sources : List SourceText) : Except Stop Catalog := do
  let items ← Stop.ofFailure (sources.mapM itemsOf)
  catalogOf (collect (sources.zip items))

end Rowsmith.Source

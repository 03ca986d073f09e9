/-
The options written on structures and fields: the arguments of the
attributes that are this tool's own. The arguments of all such attributes
of one structure or field are read one after the other into one record;
an option that takes one value may be given once in all of them.
-/
import Rowsmith.Source.Grammar
import Rowsmith.Storage

namespace Rowsmith.Source

open Rowsmith.Source.Parser

/-- The name of the tool's own attributes. -/
def attributeName : String := "archgen"

/-- Drops the marker of a raw identifier. -/
def plainName (name : String) : String :=
  match name.toList with
  | 'r' :: '#' :: rest => String.ofList rest
  | _ => name

-- ============================================================ arguments

/-- Reads an argument into a record, and the comma behind it; whether there
is one. -/
def argumentStep {α : Type} (argument : α → Parser α) (a : α) : Parser (Bool × α) := do
  if ← atEnd then return (false, a)
  let a ← argument a
  if ← atEnd then return (false, a)
  let _ ← takePunct ","
  return (true, a)

/-- Reads arguments with commas between them into a record, each with the
same rule. -/
def argumentList {α : Type} (argument : α → Parser α) (a : α) : Parser α :=
  iterate (argumentStep argument) a

/-- Reads the arguments of one attribute into a record. -/
def attributeArguments {α : Type} (argument : α → Parser α) (a : α) (attr : Attribute) :
    Except SyntaxError α :=
  match attr.body with
  | .bare => .error ⟨attr.pos, .argumentsMissing attributeName⟩
  | .valued equals => .error ⟨equals, .argumentsBare attributeName⟩
  | .listed tokens closed => (argumentList argument a).run tokens closed

/-- The attributes that are the tool's own. -/
def ownAttributes (attrs : List Attribute) : List Attribute :=
  attrs.filter fun attr => attr.path = [attributeName]

/-- The token is a comma. -/
def TokenTree.isComma : TokenTree → Bool
  | .punct _ ',' _ => true
  | _ => false

/-- The tokens that are listed in an attribute, without the commas between
them. -/
def listedTokens (attr : Attribute) : List TokenTree :=
  match attr.body with
  | .listed tokens _ => tokens.filter fun token => !token.isComma
  | _ => []

/-- The rules for what is written in the arguments of attributes: deep
enough for the tokens of all of them. A comma opens nothing. -/
def argumentRules (attrs : List Attribute) : Rules :=
  rulesFor ((ownAttributes attrs).flatMap listedTokens)

/-- The value of an option that takes a text. -/
def textValue : Parser String := do
  let _ ← takePunct "="
  string

/-- Gives an option its value, which it must not have yet. -/
def setOnce {α : Type} (name : String) (slot : Option α) (value : α) :
    Parser (Option α) :=
  match slot with
  | none => return some value
  | some _ => fail (.duplicate name)

/-- Reads the name of an option, which must be among the given ones. -/
def optionName (names : List String) : Parser String := do
  if ← ahead (Lookahead.oneOf names) then anyWord
  else failExpecting (names.map fun name => "`" ++ name ++ "`")

-- =========================================================== structures

/-- The options of a structure. -/
structure StructOptions where
  -- It is a model.
  isModel : Bool
  table : Option String
  accessor : Option String
  -- Further types it is known by.
  keys : List SourceType
  -- The two fields by which it links other models.
  bridge : Option (String × String)
deriving Repr

namespace StructOptions

def none : StructOptions := ⟨false, .none, .none, [], .none⟩

/-- The names of the options, in the order in which they are listed. -/
def names : List String := ["model", "table", "accessor", "key", "bridge"]

/-- Two identifiers with a comma between them. -/
def pair : Parser (String × String) := do
  let leftField ← ident
  let _ ← takePunct ","
  return (leftField, ← ident)

/-- Reads an argument behind its name. -/
def named (r : Rules) (o : StructOptions) (name : String) : Parser StructOptions := do
  match name with
  | "model" => return { o with isModel := true }
  | "table" =>
    let value ← textValue
    return { o with table := ← setOnce "table" o.table value }
  | "accessor" =>
    let value ← textValue
    return { o with accessor := ← setOnce "accessor" o.accessor value }
  | "key" =>
    let _ ← takePunct "="
    return { o with keys := o.keys ++ [← keyPath r] }
  | _ =>
    let fields ← inGroup .parenthesis pair
    return { o with bridge := ← setOnce "bridge" o.bridge fields }

def argument (r : Rules) (o : StructOptions) : Parser StructOptions := do
  named r o (← optionName names)

/-- The options of a structure with some attributes; nothing if none of
them is the tool's own. -/
def ofAttributes (attrs : List Attribute) : Except SyntaxError (Option StructOptions) := do
  let o ← (ownAttributes attrs).foldlM (attributeArguments (argument (argumentRules attrs))) none
  return if (ownAttributes attrs).isEmpty then .none else some o

end StructOptions

-- =============================================================== fields

/-- The arguments on a field as they are given. -/
structure FieldArguments where
  primaryKey : Bool
  nullable : Bool
  unique : Bool
  -- The storage name.
  column : Option String
  -- Default expressions, in order.
  defaults : List String
  -- The path of a mapper, and where it is given.
  mapper : Option (String × Position)
  -- What the mapper converts to, and where it is given.
  storage : Option (Storage × Position)
deriving Repr

namespace FieldArguments

def none : FieldArguments := ⟨false, false, false, .none, [], .none, .none⟩

/-- The names of the options, in the order in which they are listed. -/
def names : List String :=
  ["primary_key", "nullable", "unique", "column", "default", "mapper", "storage"]

/-- Reads an argument behind its name, which stands at a place. -/
def named (f : FieldArguments) (pos : Position) (name : String) : Parser FieldArguments := do
  match name with
  | "primary_key" => return { f with primaryKey := true }
  | "nullable" => return { f with nullable := true }
  | "unique" => return { f with unique := true }
  | "column" =>
    let value ← textValue
    return { f with column := ← setOnce "column" f.column value }
  | "default" => return { f with defaults := f.defaults ++ [← textValue] }
  | "mapper" =>
    let value ← textValue
    return { f with mapper := ← setOnce "mapper" f.mapper (value, pos) }
  | _ =>
    let name ← textValue
    match Storage.ofName? name with
    | some storage => return { f with storage := ← setOnce "storage" f.storage (storage, pos) }
    | .none => failAt pos (.unknownStorage name)

def argument (f : FieldArguments) : Parser FieldArguments := do
  let pos ← here
  named f pos (← optionName names)

/-- The arguments of a field with some attributes. -/
def ofAttributes (attrs : List Attribute) : Except SyntaxError FieldArguments :=
  (ownAttributes attrs).foldlM (attributeArguments argument) none

/-- The conversion the arguments name: a mapper and its storage, which
need each other. -/
def conversion (f : FieldArguments) : Except SyntaxError (Option (String × Storage)) :=
  match f.mapper, f.storage with
  | some (path, _), some (storage, _) => .ok (some (path, storage))
  | some (_, pos), .none => .error ⟨pos, .requires "mapper" "storage"⟩
  | .none, some (_, pos) => .error ⟨pos, .requires "storage" "mapper"⟩
  | .none, .none => .ok .none

end FieldArguments

/-- The options of a field. -/
structure FieldOptions where
  primaryKey : Bool
  nullable : Bool
  unique : Bool
  -- The storage name.
  column : Option String
  -- Default expressions, in order.
  defaults : List String
  -- The path of a mapper, and what it converts to.
  conversion : Option (String × Storage)
deriving DecidableEq, Repr

/-- The options of a field with some attributes. -/
def FieldOptions.ofAttributes (attrs : List Attribute) : Except SyntaxError FieldOptions := do
  let f ← FieldArguments.ofAttributes attrs
  return {
    primaryKey := f.primaryKey
    nullable := f.nullable
    unique := f.unique
    column := f.column
    defaults := f.defaults
    conversion := ← f.conversion }

end Rowsmith.Source

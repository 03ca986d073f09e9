/-
Which models a run turns into tables. The declared models come first, in
declaration order. An override then names a model: one that is there takes
the options that the override gives, and one that is not there joins at
the end. A model can thus be named any number of times, and of each option
the last one given counts.
-/
import Rowsmith.Settings

namespace Rowsmith

/-- Options that replace those of a model. An empty list of keys gives
none. -/
structure Override where
  model : TypeExpr
  table : Option String
  accessor : Option String
  keys : List TypeExpr
deriving DecidableEq, Repr

namespace Override

/-- Replaces the options that are given. -/
def apply (o : Override) (r : TableRequest) : TableRequest :=
  { r with
    table := o.table.getD r.table
    accessor := o.accessor.getD r.accessor
    keys := if o.keys.isEmpty then r.keys else o.keys }

/-- The request for a type that no request was made for yet: by its
declaration, or with the default names. -/
def firstRequest (c : Catalog) (type : TypeExpr) : TableRequest :=
  match c.find? type with
  | some d => d.toRequest
  | none => .ofModel type

/-- Applies an override to the first request for its model, or to a new
one at the end. -/
def merge (c : Catalog) (requests : List TableRequest) (o : Override) : List TableRequest :=
  match requests with
  | [] => [o.apply (firstRequest c o.model)]
  | r :: rest => if r.model = o.model then o.apply r :: rest else r :: merge c rest o

/-- The requests for the declared models and those that are overridden. -/
def mergeAll (c : Catalog) (overrides : List Override) : List TableRequest :=
  overrides.foldl (merge c) (c.models.map StructDecl.toRequest)

end Override

/-- A path has several segments, or looks like it. -/
def isQualified : List Char → Bool
  | ':' :: ':' :: _ => true
  | _ :: rest => isQualified rest
  | [] => false

/-- The type that a name in the settings means. A name without a path that
is not declared as it stands means the first declared type of that short
name. -/
def Catalog.typeNamed (c : Catalog) (name : String) : Except Defect TypeExpr := do
  let type ← TypeExpr.ofText name
  if isQualified name.toList || (c.find? type).isSome then return type
  return ((c.findByName? name).map (·.type)).getD type

namespace Settings

/-- The override that an entry means. -/
def ModelEntry.override (c : Catalog) (e : ModelEntry) : Except Defect Override := do
  return {
    model := ← c.typeNamed e.name
    table := e.table
    accessor := e.accessor
    keys := ← e.keys.mapM TypeExpr.ofText }

/-- What a run with these settings resolves. -/
def request (s : Settings) (c : Catalog) : Except Defect Request := do
  let overrides ← s.models.mapM (ModelEntry.override c)
  return ⟨Override.mergeAll c overrides, ← s.structures.mapM c.typeNamed⟩

end Settings

end Rowsmith

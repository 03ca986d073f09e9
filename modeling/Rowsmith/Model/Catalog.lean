/-
Catalogs: the structures found in the sources, in the order in which they
were declared, and the declared types that cannot be stored, each with
the reason.

A catalog holds at most one declaration of a type. `insert` refuses a
second one; `put` lets it take the place of the first.
-/
import Rowsmith.Assoc
import Rowsmith.Failure
import Rowsmith.Model.Request

namespace Rowsmith

/-- A declared structure and the table options found on it. -/
structure StructDecl where
  type : TypeExpr
  fields : List FieldDecl
  -- The structure is marked as a model.
  isModel : Bool
  table : Option String
  accessor : Option String
  keys : List TypeExpr
  bridge : Option Bridge
deriving DecidableEq, Repr

namespace StructDecl

/-- The table request that honours the declared options. -/
def toRequest (d : StructDecl) : TableRequest :=
  let base := TableRequest.ofModel d.type
  { base with
    table := d.table.getD base.table
    accessor := d.accessor.getD base.accessor
    keys := d.keys
    bridge := d.bridge }

end StructDecl

/-- Declared structures and unsupported types. -/
structure Catalog where
  decls : List StructDecl
  unsupported : List (TypeExpr × String)
deriving DecidableEq, Repr

namespace Catalog

/-- The catalog without declarations. -/
def empty : Catalog := ⟨[], []⟩

def find? (c : Catalog) (type : TypeExpr) : Option StructDecl :=
  c.decls.find? fun d => d.type = type

/-- The first declaration of a type with the given short name. -/
def findByName? (c : Catalog) (name : String) : Option StructDecl :=
  c.decls.find? fun d => d.type.name = name

/-- The declared models, in order. -/
def models (c : Catalog) : List StructDecl :=
  c.decls.filter (·.isModel)

/-- Adds a declaration, replacing one of the same type where it
stands. -/
def put (c : Catalog) (d : StructDecl) : Catalog :=
  if c.decls.any fun e => e.type = d.type then
    { c with decls := c.decls.map fun e => if e.type = d.type then d else e }
  else { c with decls := c.decls ++ [d] }

/-- Adds the declaration of a type that is not declared yet. -/
def insert (c : Catalog) (d : StructDecl) : Except Failure Catalog :=
  if c.decls.any fun e => e.type = d.type then
    .error (.introspection d.type.print "type is declared more than once")
  else .ok { c with decls := c.decls ++ [d] }

/-- A declaration is added if its type is not declared yet. -/
theorem insert_eq_ok_iff {c c' : Catalog} {d : StructDecl} :
    c.insert d = .ok c' ↔
      (∀ e ∈ c.decls, e.type ≠ d.type) ∧ c' = { c with decls := c.decls ++ [d] } := by
  unfold insert
  split
  case isTrue h =>
    obtain ⟨e, he, hsame⟩ := List.any_eq_true.1 h
    simp only [reduceCtorEq, false_iff, not_and]
    exact fun hnew => absurd (of_decide_eq_true hsame) (hnew e he)
  case isFalse h =>
    rw [Except.ok.injEq, eq_comm]
    refine (and_iff_right fun e he hsame => h ?_).symm
    exact List.any_eq_true.2 ⟨e, he, decide_eq_true hsame⟩

/-- Records that a declared type cannot be stored. -/
def reject (c : Catalog) (type : TypeExpr) (reason : String) : Catalog :=
  { c with unsupported := putAssoc c.unsupported type reason }

/-- The fields of a type, in declaration order. A recorded reason
outweighs a declaration. -/
def describe (c : Catalog) (type : TypeExpr) : Except Failure (List FieldDecl) :=
  match findAssoc? c.unsupported type with
  | some reason => .error (.introspection type.print reason)
  | none =>
    match c.find? type with
    | some d => .ok d.fields
    | none => .error (.introspection type.print "type is not declared in any parsed source")

/-- Only declared types are described. -/
theorem describe_error_of_find?_eq_none {c : Catalog} {type : TypeExpr}
    (h : c.find? type = none) : ∃ e, c.describe type = .error e := by
  unfold describe
  split
  · exact ⟨_, rfl⟩
  · rw [h]; exact ⟨_, rfl⟩

end Catalog

end Rowsmith

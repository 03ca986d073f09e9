/-
Names and what they stand for. A path in a module is made relative to the
crate: one that is anchored at the crate, at the module or at an enclosing
module directly, any other by looking its first name up, first among the
declarations of the module, then among the names it imports, and at last
among all declarations, where a name counts only if it is the only one of
its kind. A name that is not found is kept as it is written.
-/
import Rowsmith.Model.Catalog
import Rowsmith.Source.Item

namespace Rowsmith.Source

-- ================================================================ paths

/-- The path of a name in a module; the module of the crate itself has the
empty path. -/
def pathIn (module name : String) : String :=
  if module.isEmpty then name else module ++ "::" ++ name

def joinPath (segments : List String) : String := String.intercalate "::" segments

/-- The segments of the path of a module. -/
def moduleSegments (module : String) : List String :=
  ((TypeExpr.segments module.toList).map String.ofList).filter fun segment => !segment.isEmpty

/-- The path is anchored in the module tree. -/
def isAnchored (segments : List String) : Bool :=
  match segments with
  | first :: _ => first == "crate" || first == "self" || first == "super"
  | [] => false

/-- Goes up one module for every leading mark of the enclosing one; the
crate is its own enclosing module. -/
def climb (base : List String) : List String → List String
  | "super" :: rest => climb base.dropLast rest
  | segments => base ++ segments

/-- A path written in a module, relative to the crate. A path that is not
anchored stays as it is written. -/
def absolute (module : String) : List String → String
  | "crate" :: rest => joinPath rest
  | "self" :: rest => joinPath (moduleSegments module ++ rest)
  | "super" :: rest => joinPath (climb (moduleSegments module) ("super" :: rest))
  | segments => joinPath segments

-- ============================================================== imports

/-- Imported names, each with the path it stands for. -/
abbrev Imports := List (String × String)

/-- A walk over a tree of paths: the segments above the place it has come
to, and the names bound so far. -/
structure UseWalk where
  above : List String
  imports : Imports
deriving DecidableEq, Repr

namespace UseWalk

/-- Goes down below a segment. -/
def enter (w : UseWalk) (segment : String) : UseWalk := { w with above := w.above ++ [segment] }

/-- Goes up again. -/
def leave (w : UseWalk) : UseWalk := { w with above := w.above.dropLast }

/-- Binds a name to the path of the place, as it is seen in a module. A
later binding of a name takes the place of an earlier one. -/
def bindHere (w : UseWalk) (module name : String) : UseWalk :=
  { w with imports := putAssoc w.imports name (absolute module w.above) }

mutual

/-- Binds the names of a tree in a module, leaf by leaf. A module binds its
own name; a leaf that means all names of a module binds none. -/
def visit (module : String) (w : UseWalk) : UseTree → UseWalk
  | .under segment tree => (visit module (w.enter segment) tree).leave
  | .leaf name =>
    if name = "self" then
      match w.above.getLast? with
      | some last => w.bindHere module last
      | none => w
    else ((w.enter name).bindHere module name).leave
  | .renamed name given =>
    if name = "self" then w.bindHere module given
    else ((w.enter name).bindHere module given).leave
  | .all => w
  | .several trees => visitAll module w trees

/-- Binds the names of several trees. -/
def visitAll (module : String) (w : UseWalk) : List UseTree → UseWalk
  | [] => w
  | tree :: rest => visitAll module (visit module w tree) rest

end

end UseWalk

/-- Adds the names that a tree binds in a module. -/
def Imports.add (imports : Imports) (module : String) (tree : UseTree) : Imports :=
  (UseWalk.visit module ⟨[], imports⟩ tree).imports

-- ============================================================ resolving

/-- What a module sees. -/
structure Scope where
  module : String
  imports : Imports
  -- The paths of all declarations of the crate, each once.
  declared : List String

namespace Scope

/-- The only declaration with a name. -/
def uniqueByName? (s : Scope) (name : String) : Option String :=
  match s.declared.filter fun path => TypeExpr.lastSegment path = name with
  | [path] => some path
  | _ => none

/-- What a single name stands for. -/
def resolveName (s : Scope) (name : String) : String :=
  if s.declared.contains (pathIn s.module name) then pathIn s.module name
  else
    match findAssoc? s.imports name with
    | some path => path
    | none => (s.uniqueByName? name).getD name

def resolve (s : Scope) (segments : List String) : String :=
  if isAnchored segments then absolute s.module segments
  else
    match segments with
    | [] => ""
    | [name] => s.resolveName name
    | first :: rest =>
      match findAssoc? s.imports first with
      | some path => joinPath (path :: rest)
      | none =>
        let below := pathIn s.module (joinPath segments)
        if s.declared.contains below then below else joinPath segments

mutual

/-- A type with its paths made relative to the crate. -/
def canonical (s : Scope) : SourceType → TypeExpr
  | .path segments args => .generic (s.resolve segments) (canonicalAll s args)
  | .verbatim shape text => .verbatim shape text

/-- Several types with their paths made relative to the crate. -/
def canonicalAll (s : Scope) : List SourceType → List TypeExpr
  | [] => []
  | type :: rest => canonical s type :: canonicalAll s rest

end

end Scope

end Rowsmith.Source

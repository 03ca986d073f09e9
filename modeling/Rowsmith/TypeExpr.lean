/-
Type expressions: how declarations, keys and configuration name the
types of the source language. A path type keeps the text of its path and
its generic arguments apart; a type of any other shape keeps its text as
it was rendered and has no arguments. Two expressions name the same type
when they are equal.

The printer is here; the reader that inverts it on path types is in
`TypeExpr.Reader`.
-/

namespace Rowsmith

/-- The shapes of types, in the order in which they compare. -/
inductive TypeShape
  | path
  | array
  | slice
  | tuple
  | reference
  | traitObject
  | other
deriving DecidableEq, Repr

/-- The position of a shape in the order of shapes. -/
def TypeShape.rank : TypeShape → Nat
  | .path => 0
  | .array => 1
  | .slice => 2
  | .tuple => 3
  | .reference => 4
  | .traitObject => 5
  | .other => 6

/-- A type: its path or text, its generic arguments and its shape. -/
inductive TypeExpr
  | mk (path : String) (args : List TypeExpr) (shape : TypeShape)
deriving Repr

namespace TypeExpr

-- ============================================================= equality

mutual

/-- Equality of types is decided part by part. -/
def decEq : (a b : TypeExpr) → Decidable (a = b)
  | .mk p as s, .mk q bs t =>
    if hp : p = q then
      if hs : s = t then
        match decEqAll as bs with
        | isTrue h => isTrue (by rw [hp, hs, h])
        | isFalse h => isFalse fun e => h (by injection e)
      else isFalse fun e => hs (by injection e)
    else isFalse fun e => hp (by injection e)

/-- Equality of argument lists is decided argument by argument. -/
def decEqAll : (as bs : List TypeExpr) → Decidable (as = bs)
  | [], [] => isTrue rfl
  | [], _ :: _ => isFalse (by simp)
  | _ :: _, [] => isFalse (by simp)
  | a :: as, b :: bs =>
    match decEq a b with
    | isTrue h =>
      match decEqAll as bs with
      | isTrue hs => isTrue (by rw [h, hs])
      | isFalse hs => isFalse fun e => hs (by injection e)
    | isFalse h => isFalse fun e => h (by injection e)

end

instance : DecidableEq TypeExpr := decEq

-- ================================================================ parts

/-- The path of a path type, or the text of any other. -/
def path : TypeExpr → String
  | .mk path _ _ => path

def args : TypeExpr → List TypeExpr
  | .mk _ args _ => args

def shape : TypeExpr → TypeShape
  | .mk _ _ shape => shape

/-- A path type with generic arguments. -/
def generic (path : String) (args : List TypeExpr) : TypeExpr := .mk path args .path

/-- A path type without generic arguments. -/
def named (path : String) : TypeExpr := generic path []

instance : Inhabited TypeExpr := ⟨named ""⟩

def verbatim (shape : TypeShape) (text : String) : TypeExpr := .mk text [] shape

/-- The optional type over another. -/
def option (inner : TypeExpr) : TypeExpr := generic "Option" [inner]

/-- The same arguments and shape under another path. -/
def withPath (t : TypeExpr) (path : String) : TypeExpr := .mk path t.args t.shape

/-- The segments of a path, between double colons. -/
def segments : List Char → List (List Char)
  | [] => [[]]
  | ':' :: ':' :: rest => [] :: segments rest
  | c :: rest =>
    match segments rest with
    | [] => [[c]]
    | segment :: more => (c :: segment) :: more

/-- Cuts a path at its last double colon. -/
def cutLast : List Char → Option (List Char × List Char)
  | [] => none
  | c :: rest =>
    match cutLast rest with
    | some (before, after) => some (c :: before, after)
    | none =>
      match c, rest with
      | ':', ':' :: after => some ([], after)
      | _, _ => none

/-- The last segment of the text of a path. -/
def lastSegment (path : String) : String :=
  match cutLast path.toList with
  | some (_, after) => String.ofList after
  | none => path

/-- The short name: the last segment of a path, or the whole text of any
other type. -/
def name (t : TypeExpr) : String :=
  if t.shape = .path then lastSegment t.path else t.path

/-- The module of a path type, if its path has several segments. -/
def module? (t : TypeExpr) : Option String :=
  if t.shape = .path then (cutLast t.path.toList).map fun cut => String.ofList cut.1 else none

def isPath (t : TypeExpr) : Bool := t.shape == .path

/-- The paths under which the optional type is known. -/
def optionPaths : List String := ["Option", "std::option::Option", "core::option::Option"]

/-- The type the optional type is over, if it is one. -/
def optionInner? : TypeExpr → Option TypeExpr
  | .mk path [inner] .path => if optionPaths.contains path then some inner else none
  | _ => none

def isOption (t : TypeExpr) : Bool := t.optionInner?.isSome

/-- The type of the values a field holds when it holds one: an optional
type is looked through, once. -/
def valueType (t : TypeExpr) : TypeExpr := t.optionInner?.getD t

/-- A type that is not optional is the type of the values itself. -/
theorem valueType_of_not_isOption {t : TypeExpr} (h : ¬ t.isOption = true) : t.valueType = t := by
  unfold isOption at h
  unfold valueType
  rw [Option.not_isSome_iff_eq_none.1 h]
  rfl

-- ============================================================= printing

mutual

/-- A type as text: the path, and the arguments between angle
brackets. -/
def print : TypeExpr → String
  | .mk path [] _ => path
  | .mk path (arg :: args) _ => path ++ "<" ++ print arg ++ printMore args ++ ">"

/-- Each further argument follows a comma and a space. -/
def printMore : List TypeExpr → String
  | [] => ""
  | arg :: args => ", " ++ print arg ++ printMore args

end

instance : ToString TypeExpr := ⟨print⟩

-- ============================================================= ordering

mutual

/-- Types are ordered by path, then by arguments, then by shape. -/
def order : TypeExpr → TypeExpr → Ordering
  | .mk p as s, .mk q bs t =>
    ((compare p q).then (orderAll as bs)).then (compare s.rank t.rank)

/-- Argument lists are ordered like words. -/
def orderAll : List TypeExpr → List TypeExpr → Ordering
  | [], [] => .eq
  | [], _ :: _ => .lt
  | _ :: _, [] => .gt
  | a :: as, b :: bs => (order a b).then (orderAll as bs)

end

end TypeExpr

end Rowsmith

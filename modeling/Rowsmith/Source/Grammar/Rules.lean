/-
The grammar as a record of rules. Types, expressions, patterns, blocks and
items contain one another, so each rule is written against a record of
rules for what is inside it, and the records are tied together one depth
at a time.
-/
import Rowsmith.Source.Item
import Rowsmith.Source.Parser

namespace Rowsmith.Source

/-- The form of a type, as far as the rules around it ask. -/
inductive TypeForm
  -- A path; `plain` if it may name an associated item.
  | path (plain : Bool)
  -- Bounds without a keyword; `single` if it is one bound.
  | bounds (single : Bool)
  -- A type in parentheses.
  | parenthesized
  | other
deriving DecidableEq, Repr

/-- A type and its form. -/
structure TypeNode where
  type : SourceType
  form : TypeForm

/-- The form of an expression, as far as the rules around it ask. -/
inductive ExprForm
  -- A range.
  | range
  -- A comparison.
  | comparison
  -- A block or a control structure that ends in one.
  | block
  -- A call in braces of something defined by rules.
  | braced
  | other
deriving DecidableEq, Repr

/-- The rules for what is inside. -/
structure Rules where
  -- The depth down to which they go.
  depth : Nat
  -- A type; may it be a sum of bounds?
  type : Bool → Parser TypeNode
  -- An expression; may a structure be written in braces?
  expr : Bool → Parser ExprForm
  -- An operand with what is written before and after it.
  operand : Bool → Parser ExprForm
  -- What follows an operand: operators that bind at least so tightly.
  operators : Bool → Nat → ExprForm → Parser ExprForm
  -- An expression that ends where a statement would.
  statementExpr : Parser ExprForm
  -- The statements of a block.
  statements : Parser Unit
  -- A pattern without alternatives.
  pattern : Parser Unit
  -- An item.
  item : Parser Item
  -- The tree of an import, and whether a path in it may begin with a
  -- double colon. Nothing if one does.
  useTree : Bool → Parser (Option UseTree)

/-- The rules of a grammar without depth: nothing can be inside. -/
def Rules.none : Rules where
  depth := 0
  type := fun _ => Parser.fail (.misplaced "nested too deeply")
  expr := fun _ => Parser.fail (.misplaced "nested too deeply")
  operand := fun _ => Parser.fail (.misplaced "nested too deeply")
  operators := fun _ _ _ => Parser.fail (.misplaced "nested too deeply")
  statementExpr := Parser.fail (.misplaced "nested too deeply")
  statements := Parser.fail (.misplaced "nested too deeply")
  pattern := Parser.fail (.misplaced "nested too deeply")
  item := Parser.fail (.misplaced "nested too deeply")
  useTree := fun _ => Parser.fail (.misplaced "nested too deeply")

end Rowsmith.Source

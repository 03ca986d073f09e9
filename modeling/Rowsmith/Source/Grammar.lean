/-
The grammar of source files, tied together: at every depth the rules for
what is inside are those of one depth less. A rule enters another only
after reading a token or a bounded number of times, so a depth taken from
the number of tokens is enough for every text.
-/
import Rowsmith.Source.Grammar.Item
import Rowsmith.Source.Lexer

namespace Rowsmith.Source

open Rowsmith.Source.Parser

/-- The rules of the grammar down to a depth. -/
def rules : Nat → Rules
  | 0 => .none
  | depth + 1 => {
    depth := depth + 1
    type := fun plus s => Grammar.typeNode (rules depth) plus s
    expr := fun structs s => Grammar.exprNode (rules depth) structs s
    operand := fun structs s => Grammar.operandNode (rules depth) structs s
    operators := fun structs base form s =>
      Grammar.operatorsNode (rules depth) structs base form s
    statementExpr := fun s => Grammar.statementExprNode (rules depth) s
    statements := fun s => Grammar.statementsNode (rules depth) s
    pattern := fun s => Grammar.patternNode (rules depth) s
    item := fun s => Grammar.itemNode (rules depth) s
    useTree := fun rooted s => Grammar.useTreeNode (rules depth) rooted s }

mutual

/-- The number of tokens in a tree, brackets included. -/
def TokenTree.size : TokenTree → Nat
  | .group _ _ _ content => TokenTree.sizeAll content + 2
  | _ => 1

/-- The number of tokens in trees. -/
def TokenTree.sizeAll : List TokenTree → Nat
  | [] => 0
  | token :: rest => token.size + TokenTree.sizeAll rest

end

def rulesFor (tokens : List TokenTree) : Rules := rules (8 * TokenTree.sizeAll tokens + 16)

/-- A path with its arguments, where the type of a key is written. -/
def keyPath (r : Rules) : Parser SourceType := do
  return (← Grammar.pathNode r false).type

def fileItems (r : Rules) : Parser (List Item) := do
  let _ ← Grammar.innerAttributes r
  whileDo (return !(← atEnd)) r.item

/-- The items of a source text, or the place where it is no source
text. -/
def parseFile (text : String) : Except Position (List Item) := do
  let tokens ← fileTokens text
  ((fileItems (rulesFor tokens)).run tokens .start).mapError (·.pos)

end Rowsmith.Source

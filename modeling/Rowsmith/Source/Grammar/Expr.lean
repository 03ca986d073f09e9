/-
Expressions. None is kept; the form of one tells what may follow it.

Operators bind by precedence, loosest first: assignment, ranges, logical
and, comparison, the bitwise operators, shifts, sums, products, casts. A
comparison has no comparison as its left operand, and a range is no left
operand at all.
-/
import Rowsmith.Source.Grammar.Pattern

namespace Rowsmith.Source.Grammar

open Rowsmith.Source.Parser

-- =========================================================== precedence

/-- The precedence of an assignment. -/
def assignPrecedence : Nat := 1

def rangePrecedence : Nat := 2

/-- The precedence of a comparison. -/
def comparePrecedence : Nat := 6

def castPrecedence : Nat := 13

/-- The binary operators in the order in which they are looked for, each
with its precedence. -/
def binaryOperators : List (String × Nat) :=
  [("+=", 1), ("-=", 1), ("*=", 1), ("/=", 1), ("%=", 1), ("^=", 1), ("&=", 1), ("|=", 1),
    ("<<=", 1), (">>=", 1), ("&&", 4), ("||", 3), ("<<", 10), (">>", 10), ("==", 6), ("<=", 6),
    ("!=", 6), (">=", 6), ("+", 11), ("-", 11), ("*", 12), ("/", 12), ("%", 12), ("^", 8),
    ("&", 9), ("|", 7), ("<", 6), (">", 6)]

/-- The binary operator that is next. -/
def binaryOperator? (t : List TokenTree) : Option (String × Nat) :=
  binaryOperators.find? fun (operator, _) => Lookahead.punct operator t

def startsAssign (t : List TokenTree) : Bool := Lookahead.punct "=" t && !Lookahead.punct "=>" t

/-- The precedence of what is next; zero if it is no operator. -/
def nextPrecedence (t : List TokenTree) : Nat :=
  match binaryOperator? t with
  | some (_, precedence) => precedence
  | none =>
    if startsAssign t then assignPrecedence
    else if Lookahead.punct ".." t then rangePrecedence
    else if Lookahead.word "as" t then castPrecedence
    else 0

/-- The next token could begin an expression. -/
def startsExpr (t : List TokenTree) : Bool :=
  (Lookahead.anyWord t && !Lookahead.word "as" t) || Lookahead.group .parenthesis t ||
    Lookahead.group .bracket t || Lookahead.group .brace t || Lookahead.literal t ||
    (Lookahead.punct "!" t && !Lookahead.punct "!=" t) ||
    (Lookahead.punct "-" t && !Lookahead.punct "-=" t && !Lookahead.punct "->" t) ||
    (Lookahead.punct "*" t && !Lookahead.punct "*=" t) ||
    (Lookahead.punct "|" t && !Lookahead.punct "|=" t) ||
    (Lookahead.punct "&" t && !Lookahead.punct "&=" t) || Lookahead.punct ".." t ||
    (Lookahead.punct "<" t && !Lookahead.punct "<=" t && !Lookahead.punct "<<=" t) ||
    Lookahead.punct "::" t || Lookahead.lifetime t || Lookahead.punct "#" t

-- ============================================================ operators

/-- The right operand of an operator of some precedence. -/
def rightOperand (r : Rules) (structs : Bool) (precedence : Nat) : Parser Unit := do
  let first ← r.operand structs
  let _ ← iterate (fun form => do
    let next ← fun s => .ok (nextPrecedence s.rest, s)
    if next > precedence || (next == precedence && precedence == assignPrecedence) then
      let before ← left
      let form ← r.operators structs next form
      return ((← left) < before, form)
    else return (false, form)) first

def isRange (t : List TokenTree) : Bool := Lookahead.punct ".." t

/-- What stands after the two points of a range without an end. -/
def endsRange (structs : Bool) (t : List TokenTree) : Bool :=
  t.isEmpty || Lookahead.punct "," t || Lookahead.punct ";" t ||
    (Lookahead.punct "." t && !isRange t) || Lookahead.punct "?" t || Lookahead.punct "=>" t ||
    (!structs && Lookahead.group .brace t) || Lookahead.punct "=" t ||
    ["+", "/", "%", "^", ">", "<=", "!=", "-=", "*=", "&=", "|=", "<<="].any
      (fun operator => Lookahead.punct operator t) ||
    Lookahead.word "as" t

/-- The two points of a range and its end. -/
def rangeTail (r : Rules) (structs : Bool) : Parser Unit := do
  if ← acceptPunct "..=" then rightOperand r structs rangePrecedence
  else if ← peekPunct "..." then failExpecting ["`..`", "`..=`"]
  else
    let _ ← takePunct ".."
    if !(← ahead (endsRange structs)) then rightOperand r structs rangePrecedence

/-- Nothing may follow a cast that would belong to the type. -/
def checkCast : Parser Unit := do
  let bad ← ahead fun t => (Lookahead.punct "." t && !isRange t) || Lookahead.punct "?" t ||
    Lookahead.group .bracket t || Lookahead.group .parenthesis t
  if bad then fail (.misplaced "casts cannot be followed by this")

/-- Operators after an operand that bind at least so tightly. -/
def operatorsNode (r : Rules) (structs : Bool) (base : Nat) (form : ExprForm) :
    Parser ExprForm :=
  iterate (fun form => do
    if form = .range then return (false, form)
    let next ← fun s => .ok (binaryOperator? s.rest, s)
    match next with
    | some (operator, precedence) =>
      if precedence < base then return (false, form)
      if precedence == comparePrecedence && form = .comparison then
        fail (.misplaced "comparison operators cannot be chained")
      let _ ← takePunct operator
      rightOperand r structs precedence
      return (true, if precedence == comparePrecedence then .comparison else .other)
    | none =>
      if base ≤ assignPrecedence && (← ahead startsAssign) then
        let _ ← takePunct "="
        rightOperand r structs assignPrecedence
        return (true, .other)
      else if base ≤ rangePrecedence && (← ahead isRange) then
        rangeTail r structs
        return (true, .range)
      else if base ≤ castPrecedence && (← peekWord "as") then
        let _ ← takeWord "as"
        let _ ← r.type false
        checkCast
        return (true, .other)
      else return (false, form)) form

-- ============================================================= operands

/-- A field of a value: its name, its number, or two numbers that look
like one with a point. -/
def fieldAccess (r : Rules) : Parser Unit := do
  let isFloat (t : List TokenTree) : Bool :=
    match t with
    | .literal _ text :: _ => isNumberLiteral text && isFloatLiteral text
    | _ => false
  if ← ahead isFloat then skip
  else if ← acceptWord "await" then pure ()
  else
    let named ← member
    if named then
      if ← peekPunct "::" then
        let _ ← angleNode r
        let _ ← inGroup .parenthesis (commaList (r.expr true))
      else if ← peekGroup .parenthesis then
        let _ ← inGroup .parenthesis (commaList (r.expr true))

/-- Calls, fields, indices and marks after an operand. -/
def trailers (r : Rules) (form : ExprForm) : Parser ExprForm :=
  iterate (fun form => do
    if ← peekGroup .parenthesis then
      let _ ← inGroup .parenthesis (commaList (r.expr true))
      return (true, .other)
    else if form ≠ .range && (← ahead fun t => Lookahead.punct "." t && !isRange t) then
      let _ ← takePunct "."
      fieldAccess r
      return (true, .other)
    else if ← peekGroup .bracket then
      let _ ← inGroup .bracket (r.expr true)
      return (true, .other)
    else if form ≠ .range && (← peekPunct "?") then
      let _ ← takePunct "?"
      return (true, .other)
    else return (false, form)) form

/-- The block of a control structure. -/
def blockNode (r : Rules) : Parser Unit := inGroup .brace do
  let _ ← innerAttributes r
  r.statements

def ifNode (r : Rules) : Parser Unit := do
  let _ ← iterate (fun _ => do
    let _ ← takeWord "if"
    let _ ← r.expr false
    inGroup .brace r.statements
    if ← acceptWord "else" then
      if ← peekWord "if" then return (true, ())
      else if ← peekGroup .brace then
        inGroup .brace r.statements
        return (false, ())
      else failExpecting ["`if`", "curly braces"]
    else return (false, ())) ()

/-- One case of a choice by pattern. -/
def armNode (r : Rules) : Parser Unit := do
  let _ ← outerAttributes r
  alternatives r
  if ← acceptWord "if" then
    let _ ← r.expr true
  let _ ← takePunct "=>"
  let form ← r.statementExpr
  if form = .block || (← atEnd) then
    let _ ← acceptPunct ","
  else
    let _ ← takePunct ","

def matchNode (r : Rules) : Parser Unit := do
  let _ ← takeWord "match"
  let _ ← r.expr false
  inGroup .brace do
    let _ ← innerAttributes r
    let _ ← whileDo (return !(← atEnd)) (armNode r)

def forNode (r : Rules) : Parser Unit := do
  let _ ← takeWord "for"
  alternatives r
  let _ ← takeWord "in"
  let _ ← r.expr false
  blockNode r

def whileNode (r : Rules) : Parser Unit := do
  let _ ← takeWord "while"
  let _ ← r.expr false
  blockNode r

/-- A loop or block behind a label. -/
def labeledNode (r : Rules) : Parser Unit := do
  lifetime
  let _ ← takePunct ":"
  if ← peekWord "while" then whileNode r
  else if ← peekWord "for" then forNode r
  else if ← acceptWord "loop" then blockNode r
  else if ← peekGroup .brace then blockNode r
  else fail (.misplaced "expected loop or block expression")

/-- Parameters that a quantifier would have, and not a qualified path. -/
def startsGenerics (t : List TokenTree) : Bool :=
  Lookahead.punct "<" t && (Lookahead.second (fun t => Lookahead.punct ">" t ||
      Lookahead.punct "#" t || Lookahead.word "const" t) t ||
    (Lookahead.second (fun t => Lookahead.lifetime t || Lookahead.ident t) t &&
      Lookahead.third (fun t => Lookahead.punct ">" t || Lookahead.punct "," t || isColon t ||
        Lookahead.punct "=" t) t))

/-- A quantifier over lifetimes, and not a loop. -/
def startsQuantifier (t : List TokenTree) : Bool :=
  Lookahead.word "for" t && Lookahead.second startsGenerics t

/-- A control structure or block that is next. -/
def startsBlockExpr (t : List TokenTree) : Bool :=
  Lookahead.oneOf ["if", "while", "loop", "match", "unsafe"] t ||
    (Lookahead.word "for" t && !startsQuantifier t) ||
    (Lookahead.oneOf ["try", "const"] t && Lookahead.second (Lookahead.group .brace) t) ||
    Lookahead.group .brace t

def blockExpr (r : Rules) : Parser Unit := do
  if ← peekWord "if" then ifNode r
  else if ← peekWord "while" then whileNode r
  else if ← peekWord "for" then forNode r
  else if ← peekWord "match" then matchNode r
  else if ← ahead (Lookahead.oneOf ["loop", "unsafe", "try", "const"]) then
    let _ ← anyWord
    blockNode r
  else blockNode r

def closureNode (r : Rules) (structs : Bool) : Parser Unit := do
  let _ ← acceptLifetimes r
  let _ ← acceptWord "const"
  let _ ← acceptWord "static"
  let _ ← acceptWord "async"
  let _ ← acceptWord "move"
  let _ ← takePunct "|"
  let _ ← upTo (Lookahead.punct "|") "," do
    let _ ← outerAttributes r
    r.pattern
    if ← acceptPunct ":" then
      let _ ← r.type true
  let _ ← takePunct "|"
  if ← acceptPunct "->" then
    let _ ← r.type true
    inGroup .brace r.statements
  else
    let _ ← r.expr structs

/-- The next token begins a function without a name. -/
def startsClosure (t : List TokenTree) : Bool :=
  Lookahead.punct "|" t || Lookahead.oneOf ["move", "static"] t || startsQuantifier t ||
    (Lookahead.word "const" t && !Lookahead.second (Lookahead.group .brace) t) ||
    (Lookahead.word "async" t &&
      Lookahead.second (fun t => Lookahead.punct "|" t || Lookahead.word "move" t) t)

def startsAsync (t : List TokenTree) : Bool :=
  Lookahead.word "async" t && (Lookahead.second (Lookahead.group .brace) t ||
    (Lookahead.second (Lookahead.word "move") t && Lookahead.third (Lookahead.group .brace) t))

/-- The fields of a structure that is written in braces. -/
def structFields (r : Rules) : Parser Unit := do
  let _ ← iterate (fun _ => do
    if ← atEnd then return (false, ())
    if ← acceptPunct ".." then
      if !(← atEnd) then
        let _ ← r.expr true
      return (false, ())
    let _ ← outerAttributes r
    let named ← member
    if !named || (← peekPunct ":") then
      let _ ← takePunct ":"
      let _ ← r.expr true
    if ← atEnd then return (false, ())
    let _ ← takePunct ","
    return (true, ())) ()

/-- A path, a structure written in braces, or a call of something defined
by rules. -/
def pathExpr (r : Rules) (structs : Bool) : Parser ExprForm := do
  let p ← qualifiedPath r true
  if !p.qualified && p.isPlain &&
      (← ahead fun t => Lookahead.punct "!" t && !Lookahead.punct "!=" t) then
    let _ ← takePunct "!"
    return if (← anyGroup) = .brace then .braced else .other
  if structs && (← peekGroup .brace) then inGroup .brace (structFields r)
  return .other

/-- An expression that leaves something, with a value if one follows. -/
def leaveNode (r : Rules) (structs : Bool) : Parser Unit := do
  let word ← anyWord
  if word == "break" || word == "continue" then
    if ← peekLifetime then lifetime
  if word ≠ "continue" then
    let follows ← ahead startsExpr
    if follows && (structs || word ≠ "break" || !(← peekGroup .brace)) then
      let _ ← r.expr (structs || word ≠ "break")

/-- A list of values, or one value repeated. -/
def arrayNode (r : Rules) : Parser Unit := inGroup .bracket do
  if ← atEnd then return
  let _ ← r.expr true
  if ← acceptPunct ";" then
    let _ ← r.expr true
  else if ← acceptPunct "," then
    let _ ← commaList (r.expr true)
  else if !(← atEnd) then fail (.misplaced "expected `,` or `;`")

/-- The next token begins a path in an expression. -/
def startsPathExpr (t : List TokenTree) : Bool :=
  startsPath t || (Lookahead.word "try" t &&
    Lookahead.second (fun t => Lookahead.punct "!" t || Lookahead.punct "::" t) t)

/-- An operand without anything before or after it. -/
def atomNode (r : Rules) (structs : Bool) : Parser ExprForm := do
  if ← ahead Lookahead.literal then
    literal
    return .other
  else if ← ahead startsAsync then
    let _ ← anyWord
    let _ ← acceptWord "move"
    inGroup .brace r.statements
    return .other
  else if ← ahead fun t => Lookahead.word "try" t && Lookahead.second (Lookahead.group .brace) t then
    blockExpr r
    return .block
  else if ← ahead startsClosure then
    closureNode r structs
    return .other
  else if ← ahead startsPathExpr then pathExpr r structs
  else if ← peekGroup .parenthesis then
    let _ ← inGroup .parenthesis (commaList (r.expr true))
    return .other
  else if ← ahead (Lookahead.oneOf ["break", "continue", "return", "become", "yield"]) then
    leaveNode r structs
    return .other
  else if ← peekGroup .bracket then
    arrayNode r
    return .other
  else if ← acceptWord "let" then
    alternatives r
    let _ ← takePunct "="
    let form ← r.operand structs
    let _ ← r.operators structs comparePrecedence form
    return .other
  else if ← ahead startsBlockExpr then
    blockExpr r
    return .block
  else if ← peekPunct ".." then
    rangeTail r structs
    return .range
  else if ← peekWord "_" then
    let _ ← anyWord
    return .other
  else if ← peekLifetime then
    labeledNode r
    return .block
  else failExpecting ["an expression"]

/-- An operand with what is written before and after it. -/
def operandNode (r : Rules) (structs : Bool) : Parser ExprForm := do
  let _ ← outerAttributes r
  if ← acceptPunct "&" then
    let raw (t : List TokenTree) : Bool :=
      Lookahead.word "raw" t && Lookahead.second (Lookahead.oneOf ["mut", "const"]) t
    if ← ahead raw then
      let _ ← anyWord
      let _ ← anyWord
    else
      let _ ← acceptWord "mut"
    let _ ← r.operand structs
    return .other
  else if ← acceptPunct "*" <||> acceptPunct "!" <||> acceptPunct "-" then
    let _ ← r.operand structs
    return .other
  else
    let form ← atomNode r structs
    trailers r form

def exprNode (r : Rules) (structs : Bool) : Parser ExprForm := do
  let form ← r.operand structs
  r.operators structs 0 form

/-- An expression that ends where a statement would: after a block nothing
follows but a field or a mark. -/
def statementExprNode (r : Rules) : Parser ExprForm := do
  let _ ← outerAttributes r
  if ← ahead startsBlockExpr then
    blockExpr r
    if ← ahead fun t => (Lookahead.punct "." t && !isRange t) || Lookahead.punct "?" t then
      let form ← trailers r .block
      r.operators true 0 form
    else return .block
  else if ← peekLifetime then
    labeledNode r
    if ← ahead fun t => (Lookahead.punct "." t && !isRange t) || Lookahead.punct "?" t then
      let form ← trailers r .block
      r.operators true 0 form
    else return .block
  else exprNode r true

end Rowsmith.Source.Grammar

/-
Type parameters and conditions of items, and patterns. None of them is
kept; reading one finds out where it ends and whether it is well formed.
-/
import Rowsmith.Source.Grammar.Type

namespace Rowsmith.Source.Grammar

open Rowsmith.Source.Parser

-- ============================================================= generics

/-- The parameters of an item, and where they begin if there are any. -/
def generics (r : Rules) : Parser (Option Position) := do
  if !(← peekPunct "<") then return none
  let pos ← takePunct "<"
  let params ← upTo closesAngle "," do genericParam r true (pathDepth r)
  let _ ← takePunct ">"
  return if params.isEmpty then none else some pos

/-- A condition on lifetimes or types. -/
def condition (r : Rules) : Parser Unit := do
  if ← ahead fun t => Lookahead.lifetime t && Lookahead.second (Lookahead.punct ":") t then
    lifetime
    let _ ← takePunct ":"
    let _ ← joined closesCondition "+" lifetime
  else
    let _ ← acceptLifetimes r
    let _ ← r.type true
    let _ ← takePunct ":"
    let _ ← joined closesCondition "+" (boundNode r false)

/-- The conditions of an item, if there are any. -/
def conditions (r : Rules) : Parser Unit := do
  if ← acceptWord "where" then
    let _ ← joined closesCondition "," (condition r)

-- ============================================================= patterns

/-- The limits of a range in a pattern; whether the upper one must be
there. -/
def patternLimits : Parser Bool := do
  if ← acceptPunct "..=" then return true
  else if ← acceptPunct "..." then return true
  else
    let _ ← takePunct ".."
    return false

/-- What ends a pattern where a range may have no upper limit. -/
def endsBound (t : List TokenTree) : Bool :=
  t.isEmpty || Lookahead.punct "|" t || Lookahead.punct "=" t || isColon t ||
    Lookahead.punct "," t || Lookahead.punct ";" t || Lookahead.word "if" t

/-- A limit of a range, if there is one. -/
def patternBound (r : Rules) : Parser Bool := do
  if ← ahead endsBound then return false
  if ← ahead Lookahead.literal then literal
  else if ← ahead startsPath then
    let _ ← qualifiedPath r true
  else if ← peekWord "const" then
    let _ ← takeWord "const"
    inGroup .brace do
      let _ ← innerAttributes r
      r.statements
  else failExpecting ["literal", "identifier", "`::`", "`<`", "`self`", "`Self`", "`super`",
    "`crate`", "`const`"]
  return true

/-- The upper part of a range in a pattern. -/
def patternRange (r : Rules) : Parser Unit := do
  let needed ← patternLimits
  let found ← patternBound r
  if needed && !found then failExpecting ["range upper bound"]

/-- Alternative patterns; a bar may stand before the first. -/
def alternatives (r : Rules) : Parser Unit := do
  let _ ← acceptPunct "|"
  r.pattern
  let isBar (t : List TokenTree) : Bool :=
    Lookahead.punct "|" t && !Lookahead.punct "||" t && !Lookahead.punct "|=" t
  let _ ← whileDo (ahead isBar) do
    let _ ← takePunct "|"
    r.pattern

/-- The name or number of a field. -/
def member : Parser Bool := do
  let isIndex (t : List TokenTree) : Bool :=
    match t with
    | .literal _ text :: _ => isNumberLiteral text && !isFloatLiteral text
    | _ => false
  if ← peekIdent then
    let _ ← ident
    return true
  else if ← ahead isIndex then
    skip
    return false
  else failExpecting ["identifier or integer"]

def fieldPattern (r : Rules) : Parser Unit := do
  let marked ← ahead (Lookahead.oneOf ["box", "ref", "mut"])
  if marked then
    let _ ← acceptWord "box"
    let _ ← acceptWord "ref"
    let _ ← acceptWord "mut"
    let _ ← ident
  else
    let named ← member
    if !named || (← peekPunct ":") then
      let _ ← takePunct ":"
      alternatives r

def bindingPattern (r : Rules) : Parser Unit := do
  let _ ← acceptWord "ref"
  let _ ← acceptWord "mut"
  let _ ← if ← peekWord "self" then anyWord else ident
  if ← acceptPunct "@" then r.pattern

/-- What begins a pattern, in the order in which it is looked for. -/
def patternStarts : List String :=
  ["identifier", "`::`", "`<`", "`_`", "literal", "`const`", "`ref`", "`mut`", "`&`",
    "parentheses", "square brackets", "`..`"]

/-- An identifier with something after it that makes it a path. -/
def startsPathPattern (t : List TokenTree) : Bool :=
  (Lookahead.ident t && Lookahead.second (fun t => Lookahead.punct "::" t ||
    Lookahead.punct "!" t || Lookahead.group .brace t || Lookahead.group .parenthesis t ||
    Lookahead.punct ".." t) t) ||
  (Lookahead.word "self" t && Lookahead.second (Lookahead.punct "::") t) ||
  Lookahead.punct "::" t || Lookahead.punct "<" t ||
  Lookahead.oneOf ["Self", "super", "crate"] t

/-- A pattern without alternatives. -/
def patternNode (r : Rules) : Parser Unit := do
  if ← ahead startsPathPattern then
    let p ← qualifiedPath r true
    if !p.qualified && p.isPlain &&
        (← ahead fun t => Lookahead.punct "!" t && !Lookahead.punct "!=" t) then
      let _ ← takePunct "!"
      let _ ← anyGroup
    else if ← peekGroup .brace then
      inGroup .brace do
        let _ ← iterate (fun _ => do
          if ← atEnd then return (false, ())
          let _ ← outerAttributes r
          if ← acceptPunct ".." then return (false, ())
          fieldPattern r
          if ← atEnd then return (false, ())
          let _ ← takePunct ","
          return (true, ())) ()
    else if ← peekGroup .parenthesis then
      let _ ← inGroup .parenthesis (commaList (alternatives r))
    else if ← peekPunct ".." then patternRange r
  else if ← peekWord "_" then
    let _ ← anyWord
  else if ← peekWord "box" then
    let _ ← anyWord
    r.pattern
  else if ← ahead fun t => Lookahead.punct "-" t || Lookahead.literal t ||
      Lookahead.word "const" t then
    let _ ← patternBound r
    if ← peekPunct ".." then patternRange r
  else if ← ahead fun t => Lookahead.oneOf ["ref", "mut", "self"] t || Lookahead.ident t then
    bindingPattern r
  else if ← peekPunct "&" then
    let _ ← takePunct "&"
    let _ ← acceptWord "mut"
    r.pattern
  else if ← peekGroup .parenthesis then
    let _ ← inGroup .parenthesis (commaList (alternatives r))
  else if ← peekGroup .bracket then
    let _ ← inGroup .bracket (commaList (alternatives r))
  else if ← ahead fun t => Lookahead.punct ".." t && !Lookahead.punct "..." t then
    patternRange r
  else failExpecting patternStarts

end Rowsmith.Source.Grammar

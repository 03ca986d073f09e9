/-
Attributes, and the paths without arguments that they begin with.
-/
import Rowsmith.Source.Grammar.Rules

namespace Rowsmith.Source.Grammar

open Rowsmith.Source.Parser

/-- A word that may be a segment of a path without arguments. -/
def isPathWord (tokens : List TokenTree) : Bool :=
  Lookahead.ident tokens || Lookahead.oneOf ["super", "self", "Self", "crate"] tokens

def plainPath : Parser (List String) := do
  let leading ← acceptPunct "::"
  let first ← if ← ahead isPathWord then anyWord else ident
  let segments ← iterate (fun segments => do
    if ← acceptPunct "::" then
      if ← ahead isPathWord then return (true, segments ++ [← anyWord])
      else fail (.misplaced "expected path segment after `::`")
    else return (false, segments)) [first]
  return if leading then "" :: segments else segments

/-- What follows the path of an attribute. -/
def attributeBody (r : Rules) : Parser AttributeBody := do
  match (← get).rest with
  | .group _ closed _ content :: _ =>
    let _ ← anyGroup
    return AttributeBody.listed content closed
  | _ =>
    if ← peekPunct "=" then
      let equals ← takePunct "="
      if ← ahead fun t => Lookahead.punct "#" t && Lookahead.second (Lookahead.group .bracket) t then
        fail (.misplaced "unexpected attribute inside of attribute")
      let _ ← r.expr true
      return AttributeBody.valued equals
    else return AttributeBody.bare

/-- An attribute without its mark. -/
def attributeContent (r : Rules) : Parser Attribute :=
  inGroup .bracket do
    let pos ← here
    let path ← if ← peekWord "unsafe" then do pure [← anyWord] else plainPath
    return ⟨pos, path, ← attributeBody r⟩

/-- The attributes of what follows. -/
def outerAttributes (r : Rules) : Parser (List Attribute) :=
  whileDo (peekPunct "#") do
    let _ ← takePunct "#"
    attributeContent r

/-- The attributes of what they stand in. -/
def innerAttributes (r : Rules) : Parser (List Attribute) :=
  whileDo (ahead fun t => Lookahead.punct "#" t && Lookahead.second (Lookahead.punct "!") t) do
    let _ ← takePunct "#"
    let _ ← takePunct "!"
    attributeContent r

end Rowsmith.Source.Grammar

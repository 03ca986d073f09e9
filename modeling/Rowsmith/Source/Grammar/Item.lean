/-
Statements and items. Of the items, structures, enumerations, imports and
modules are kept; the rest is read only to find its end.
-/
import Rowsmith.Source.Grammar.Expr

namespace Rowsmith.Source.Grammar

open Rowsmith.Source.Parser

-- =========================================================== visibility

/-- How far an item is visible; whether that is said at all. Parentheses
that do not name a part of the crate belong to what follows. -/
def visibility : Parser Bool := do
  if !(← acceptWord "pub") then return false
  let restricted (t : List TokenTree) : Bool :=
    match t with
    | .group _ _ .parenthesis content :: _ =>
      (Lookahead.oneOf ["crate", "self", "super"] content && content.length == 1) ||
        Lookahead.word "in" content
    | _ => false
  if ← ahead restricted then
    inGroup .parenthesis do
      if ← acceptWord "in" then
        let _ ← plainPath
      else
        let _ ← anyWord
  return true

/-- What stands after a visibility. -/
def afterVisibility : Parser (List TokenTree) := fun s =>
  match visibility s with
  | .ok (_, t) => .ok (t.rest, s)
  | .error _ => .ok (s.rest, s)

-- ============================================================ functions

/-- What may stand before the keyword of a function. -/
def startsSignature (safe : Bool) (t : List TokenTree) : Bool :=
  let drop (word : String) (t : List TokenTree) : List TokenTree :=
    if Lookahead.word word t then t.drop 1 else t
  let t := drop "async" (drop "const" t)
  let t := if safe && Lookahead.word "safe" t then t.drop 1 else drop "unsafe" t
  let t := if Lookahead.word "extern" t then
      let t := t.drop 1
      if Lookahead.string t then t.drop 1 else t
    else t
  Lookahead.word "fn" t

/-- The value a method is called on. -/
def receiver (r : Rules) : Parser Position := do
  let borrowed ← acceptPunct "&"
  if borrowed && (← peekLifetime) then lifetime
  let _ ← acceptWord "mut"
  let pos ← takeWord "self"
  if ← pure !borrowed <&&> acceptPunct ":" then
    let _ ← r.type true
  return pos

def parameters (r : Rules) : Parser Unit := do
  let _ ← iterate (fun (count, received) => do
    if ← atEnd then return (false, (count, received))
    let _ ← outerAttributes r
    if ← acceptPunct "..." then
      if !(← atEnd) then
        let _ ← takePunct ","
      return (false, (count, received))
    let received ← match ← attempt (receiver r) with
      | some pos =>
        if received then failAt pos (.misplaced "unexpected second method receiver")
        else if count > 0 then failAt pos (.misplaced "unexpected method receiver")
        else pure true
      | none => do
        if ← ahead fun t => Lookahead.ident t && Lookahead.second (Lookahead.punct "<") t then
          let _ ← r.type true
        else
          r.pattern
          let _ ← takePunct ":"
          if ← acceptPunct "..." then
            if !(← atEnd) then
              let _ ← takePunct ","
          else
            let _ ← r.type true
        pure received
    if ← atEnd then return (false, (count + 1, received))
    let _ ← takePunct ","
    return (true, (count + 1, received))) (0, false)

def signature (r : Rules) (safe : Bool) : Parser Unit := do
  let _ ← acceptWord "const"
  let _ ← acceptWord "async"
  if ← pure safe <&&> acceptWord "safe" then pure ()
  else
    let _ ← acceptWord "unsafe"
  acceptAbi
  let _ ← takeWord "fn"
  let _ ← ident
  let _ ← generics r
  inGroup .parenthesis (parameters r)
  result r true
  conditions r

/-- The value a constant has, if it has one. -/
def acceptValue (r : Rules) : Parser Bool := do
  if ← acceptPunct "=" then
    let _ ← r.expr true
    return true
  else return false

def constantNode (r : Rules) : Parser Unit := do
  if ← ahead fun t => Lookahead.ident t || Lookahead.word "_" t then
    let _ ← anyWord
  else failExpecting ["identifier", "`_`"]
  let _ ← generics r
  let _ ← takePunct ":"
  let _ ← r.type true
  let _ ← acceptValue r
  conditions r
  let _ ← takePunct ";"

/-- A type under another name, after its keyword; conditions may stand
before the definition or after it. -/
def aliasNode (r : Rules) (before after : Bool) : Parser Unit := do
  let _ ← ident
  let _ ← generics r
  if ← acceptPunct ":" then
    let closes (t : List TokenTree) : Bool :=
      Lookahead.word "where" t || Lookahead.punct "=" t || Lookahead.punct ";" t
    let _ ← upTo closes "+" (boundNode r false)
  if before then conditions r
  if ← acceptPunct "=" then
    let _ ← r.type true
  if after then conditions r
  let _ ← takePunct ";"

/-- A call of something defined by rules, as an item. -/
def callItem (named : Bool) : Parser Unit := do
  let _ ← plainPath
  let _ ← takePunct "!"
  if named then
    if ← ahead fun t => Lookahead.ident t || Lookahead.word "try" t then
      let _ ← anyWord
  if (← anyGroup) ≠ .brace then
    let _ ← takePunct ";"

/-- The next token begins a path without arguments. -/
def startsCall (t : List TokenTree) : Bool :=
  Lookahead.ident t || Lookahead.oneOf ["self", "super", "crate"] t || Lookahead.punct "::" t

-- ========================================================= associations

def traitItem (r : Rules) : Parser Unit := do
  let _ ← outerAttributes r
  let seen ← visibility
  let defaulted ← acceptWord "default"
  let constFn (t : List TokenTree) : Bool := startsSignature false t
  if ← ahead constFn then
    signature r false
    if ← peekGroup .brace then blockNode r
    else if !(← acceptPunct ";") then failExpecting ["curly braces", "`;`"]
  else if ← acceptWord "const" then constantNode r
  else if ← acceptWord "type" then aliasNode r false true
  else if !seen && !defaulted && (← ahead startsCall) then callItem false
  else failExpecting ["`fn`", "`const`", "`type`"]

def implItem (r : Rules) : Parser Unit := do
  let _ ← outerAttributes r
  let seen ← visibility
  let defaulted ← ahead fun t =>
    Lookahead.word "default" t && !Lookahead.second (Lookahead.punct "!") t
  if defaulted then
    let _ ← anyWord
  if ← ahead (startsSignature false) then
    signature r false
    if !(← acceptPunct ";") then blockNode r
  else if ← acceptWord "const" then constantNode r
  else if ← acceptWord "type" then aliasNode r false true
  else if !seen && !defaulted && (← ahead startsCall) then callItem false
  else failExpecting ["`fn`", "`const`", "`type`"]

/-- An item that is defined elsewhere. -/
def foreignItem (r : Rules) : Parser Unit := do
  let _ ← outerAttributes r
  let seen ← visibility
  let isStatic (t : List TokenTree) : Bool :=
    Lookahead.word "static" t ||
      (Lookahead.oneOf ["unsafe", "safe"] t && Lookahead.second (Lookahead.word "static") t)
  if ← ahead (startsSignature true) then
    signature r true
    if ← peekGroup .brace then blockNode r
    else
      let _ ← takePunct ";"
  else if ← ahead isStatic then
    if !(← acceptWord "static") then
      let _ ← anyWord
      let _ ← takeWord "static"
    let _ ← acceptWord "mut"
    let _ ← ident
    let _ ← takePunct ":"
    let _ ← r.type true
    let _ ← acceptValue r
    let _ ← takePunct ";"
  else if ← acceptWord "type" then aliasNode r true true
  else if !seen && (← ahead startsCall) then callItem false
  else failExpecting ["`fn`", "`static`", "`type`"]

/-- The items in braces, after the attributes of what they are in. -/
def itemsIn {α : Type} (r : Rules) (p : Parser α) : Parser (List α) := inGroup .brace do
  let _ ← innerAttributes r
  whileDo (return !(← atEnd)) p

/-- An implementation after what stands before its keyword. -/
def implNode (r : Rules) : Parser Unit := do
  let _ ← takeWord "impl"
  if ← ahead startsGenerics then
    let _ ← generics r
  if ← ahead fun t => Lookahead.punct "?" t && Lookahead.second (Lookahead.word "const") t then
    let _ ← takePunct "?"
  let _ ← acceptWord "const"
  if ← ahead fun t => Lookahead.punct "!" t && !Lookahead.second (Lookahead.group .brace) t then
    let _ ← takePunct "!"
  let _ ← r.type true
  if ← acceptWord "for" then
    let _ ← r.type true
  conditions r
  let _ ← itemsIn r (implItem r)

/-- The end of a list of bounds of a trait. -/
def closesTrait (t : List TokenTree) : Bool :=
  Lookahead.word "where" t || Lookahead.group .brace t

/-- A trait, or a name for bounds. -/
def traitNode (r : Rules) (named : Bool) : Parser Unit := do
  let _ ← takeWord "trait"
  let _ ← ident
  let _ ← generics r
  if ← pure named <&&> acceptPunct "=" then
    let closes (t : List TokenTree) : Bool := Lookahead.word "where" t || Lookahead.punct ";" t
    let _ ← upTo closes "+" (boundNode r false)
    conditions r
    let _ ← takePunct ";"
  else
    let follows ← ahead fun t => Lookahead.group .brace t || Lookahead.punct ":" t ||
      Lookahead.word "where" t
    if named && !follows then
      failExpecting ["curly braces", "`:`", "`where`", "`=`"]
    if ← acceptPunct ":" then
      let _ ← upTo closesTrait "+" (boundNode r false)
    conditions r
    let _ ← itemsIn r (traitItem r)

-- ============================================================== imports

def useTreeNode (r : Rules) (rooted : Bool) : Parser (Option UseTree) := do
  if ← ahead fun t => Lookahead.ident t ||
      Lookahead.oneOf ["self", "super", "crate", "try"] t then
    let name ← anyWord
    if ← acceptPunct "::" then
      return (← r.useTree false).map (.under name)
    else if ← acceptWord "as" then
      if ← ahead fun t => Lookahead.ident t || Lookahead.word "_" t then
        return some (.renamed name (← anyWord))
      else failExpecting ["identifier or underscore"]
    else return some (.leaf name)
  else if ← acceptPunct "*" then return some .all
  else if ← peekGroup .brace then
    inGroup .brace do
      let trees ← commaList do
        let leading ← if rooted then acceptPunct "::" else pure false
        let tree ← r.useTree (rooted && !leading)
        return if leading then none else tree
      return (trees.mapM id).map .several
  else failExpecting ["identifier", "`self`", "`super`", "`crate`", "`try`", "`*`",
    "curly braces"]

-- =========================================================== structures

def fieldItem (r : Rules) : Parser FieldItem := do
  let attributes ← outerAttributes r
  let _ ← visibility
  let nameless ← peekWord "_"
  let name ← if nameless then anyWord else ident
  let _ ← takePunct ":"
  let inlineFields (t : List TokenTree) : Bool :=
    Lookahead.word "struct" t ||
      (Lookahead.word "union" t && Lookahead.second (Lookahead.group .brace) t)
  if nameless && (← ahead inlineFields) then
    let (_, tokens) ← recorded do
      let _ ← anyWord
      let _ ← inGroup .brace (commaList (r.type true))
    return ⟨attributes, name, .verbatim .other (TokenTree.renderAll tokens)⟩
  return ⟨attributes, name, (← r.type true).type⟩

def namedFields (r : Rules) : Parser (List FieldItem) :=
  inGroup .brace (commaList (fieldItem r))

/-- Fields without names in parentheses. -/
def positionalFields (r : Rules) : Parser Unit := do
  let _ ← inGroup .parenthesis <| commaList do
    let _ ← outerAttributes r
    let _ ← visibility
    let _ ← r.type true

def structFieldsNode (r : Rules) : Parser Fields := do
  let conditional ← peekWord "where"
  conditions r
  if !conditional && (← peekGroup .parenthesis) then
    positionalFields r
    let conditional ← peekWord "where"
    conditions r
    if ← acceptPunct ";" then return .positional
    else failExpecting (if conditional then ["`;`"] else ["`where`", "`;`"])
  else if ← peekGroup .brace then return .named (← namedFields r)
  else if ← acceptPunct ";" then return .absent
  else failExpecting (if conditional then ["curly braces", "`;`"]
    else ["`where`", "parentheses", "curly braces", "`;`"])

/-- A structure after its visibility. -/
def structNode (r : Rules) (attributes : List Attribute) : Parser Item := do
  let _ ← takeWord "struct"
  let namePos ← here
  let name ← ident
  let params ← generics r
  let fields ← structFieldsNode r
  return .structured ⟨attributes, name, namePos, params, fields⟩

/-- The number of a variant as it is written, if one is. -/
def discriminantNode (r : Rules) : Parser (Option String) := do
  if ← acceptPunct "=" then
    let (_, tokens) ← recorded (r.expr true)
    return some (TokenTree.renderAll tokens)
  else return none

def variantNode (r : Rules) : Parser Variant := do
  let _ ← outerAttributes r
  let _ ← visibility
  let name ← ident
  let isUnit ← if ← peekGroup .brace then do
      let _ ← namedFields r
      pure false
    else if ← peekGroup .parenthesis then do
      positionalFields r
      pure false
    else pure true
  return ⟨name, isUnit, ← discriminantNode r⟩

/-- An enumeration after its visibility. -/
def enumNode (r : Rules) : Parser Item := do
  let _ ← takeWord "enum"
  let name ← ident
  let _ ← generics r
  conditions r
  let variants ← inGroup .brace (commaList (variantNode r))
  return .enumeration ⟨name, variants⟩

/-- A module after its visibility. -/
def moduleNode (r : Rules) : Parser Item := do
  let _ ← acceptWord "unsafe"
  let _ ← takeWord "mod"
  let name ← if ← peekWord "try" then anyWord else ident
  if ← acceptPunct ";" then return .other
  else if ← peekGroup .brace then return .module name (← itemsIn r r.item)
  else failExpecting ["`;`", "curly braces"]

-- ================================================================ items

/-- A crate that is linked, after its visibility. -/
def crateNode : Parser Unit := do
  let _ ← takeWord "extern"
  let _ ← takeWord "crate"
  let _ ← if ← peekWord "self" then anyWord else ident
  if ← acceptWord "as" then
    if ← peekIdent then
      let _ ← ident
    else
      let _ ← takeWord "_"
  let _ ← takePunct ";"

/-- A variable of the crate, after its visibility. -/
def staticNode (r : Rules) : Parser Unit := do
  let _ ← takeWord "static"
  let _ ← acceptWord "mut"
  let _ ← ident
  if ← acceptValue r then
    let _ ← takePunct ";"
  else
    let _ ← takePunct ":"
    let _ ← r.type true
    if !(← acceptPunct ";") then
      let _ ← takePunct "="
      let _ ← r.expr true
      let _ ← takePunct ";"

/-- A definition by rules, after its visibility. -/
def rulesNode : Parser Unit := do
  let _ ← anyWord
  let _ ← ident
  if ← peekGroup .parenthesis then
    let _ ← anyGroup
  if ← peekGroup .brace then
    let _ ← anyGroup
  else failExpecting ["curly braces"]

/-- What begins an item, in the order in which it is looked for. -/
def itemStarts : List String :=
  ["`fn`", "`extern`", "`use`", "`static`", "`const`", "`unsafe`", "`mod`", "`type`", "`struct`",
    "`enum`", "`union`", "`trait`", "`auto`", "`impl`", "`default`", "`macro`", "identifier",
    "`self`", "`super`", "`crate`", "`::`"]

def itemBody (r : Rules) (attributes : List Attribute) : Parser Item := do
  let t ← afterVisibility
  if startsSignature false t then
    let _ ← visibility
    signature r false
    if !(← acceptPunct ";") then blockNode r
    return .other
  else if Lookahead.word "extern" t then
    let pos ← here
    let seen ← visibility
    if Lookahead.second (Lookahead.word "crate") t then crateNode
    else
      let _ ← takeWord "extern"
      if ← ahead Lookahead.string then
        let _ ← string
      if !(← peekGroup .brace) then failExpecting ["curly braces"]
      if seen then failAt pos (.expected ["`extern`"] false)
      let _ ← itemsIn r (foreignItem r)
    return .other
  else if Lookahead.word "use" t then
    let _ ← visibility
    let _ ← takeWord "use"
    let leading ← acceptPunct "::"
    let tree ← r.useTree (!leading)
    let _ ← takePunct ";"
    return (tree.map .imports).getD .other
  else if Lookahead.word "static" t then
    let _ ← visibility
    staticNode r
    return .other
  else if Lookahead.word "const" t then
    let _ ← visibility
    let _ ← takeWord "const"
    constantNode r
    return .other
  else if Lookahead.word "unsafe" t then
    let _ ← visibility
    if Lookahead.second (Lookahead.word "mod") t then moduleNode r
    else
      let _ ← takeWord "unsafe"
      if ← ahead (Lookahead.oneOf ["trait", "auto"]) then
        let _ ← acceptWord "auto"
        traitNode r false
      else if ← peekWord "impl" then implNode r
      else if ← peekWord "extern" then
        acceptAbi
        let _ ← itemsIn r (foreignItem r)
      else failExpecting ["`trait`", "`impl`", "`extern`", "`mod`"]
      return .other
  else if Lookahead.word "mod" t then
    let _ ← visibility
    moduleNode r
  else if Lookahead.word "type" t then
    let _ ← visibility
    let _ ← takeWord "type"
    aliasNode r true false
    return .other
  else if Lookahead.word "struct" t then
    let _ ← visibility
    structNode r attributes
  else if Lookahead.word "enum" t then
    let _ ← visibility
    enumNode r
  else if Lookahead.word "union" t && Lookahead.second Lookahead.ident t then
    let _ ← visibility
    let _ ← anyWord
    let _ ← ident
    let _ ← generics r
    conditions r
    let _ ← namedFields r
    return .other
  else if Lookahead.word "trait" t then
    let _ ← visibility
    traitNode r true
    return .other
  else if Lookahead.word "auto" t && Lookahead.second (Lookahead.word "trait") t then
    let _ ← visibility
    let _ ← anyWord
    traitNode r false
    return .other
  else if Lookahead.word "impl" t ||
      (Lookahead.word "default" t && !Lookahead.second (Lookahead.punct "!") t) then
    let _ ← visibility
    let _ ← acceptWord "default"
    let _ ← acceptWord "unsafe"
    implNode r
    return .other
  else if Lookahead.word "macro" t then
    let _ ← visibility
    rulesNode
    return .other
  else if !(← peekWord "pub") && startsCall t then
    callItem true
    return .other
  else
    let _ ← visibility
    failExpecting itemStarts

def itemNode (r : Rules) : Parser Item := do
  let attributes ← outerAttributes r
  itemBody r attributes

-- =========================================================== statements

/-- The next tokens begin an item inside a block. -/
def startsItem (t : List TokenTree) : Bool :=
  let w := fun word => Lookahead.word word t
  let second := fun words => Lookahead.second (Lookahead.oneOf words) t
  let third := fun words => Lookahead.third (Lookahead.oneOf words) t
  Lookahead.oneOf ["pub", "extern", "use", "fn", "mod", "type", "struct", "enum", "trait", "impl",
    "macro"] t ||
  (w "crate" && !Lookahead.second (Lookahead.punct "::") t) ||
  (w "static" && (second ["mut"] || (Lookahead.second Lookahead.ident t &&
    !(second ["async"] && (third ["move"] || Lookahead.third (Lookahead.punct "|") t))))) ||
  (w "const" && !(Lookahead.second (Lookahead.group .brace) t || second ["static"] ||
    (second ["async"] && !third ["unsafe", "extern", "fn"]) || second ["move"] ||
    Lookahead.second (Lookahead.punct "|") t)) ||
  (w "unsafe" && !Lookahead.second (Lookahead.group .brace) t) ||
  (w "async" && second ["unsafe", "extern", "fn"]) ||
  (w "union" && Lookahead.second Lookahead.ident t) ||
  (w "auto" && second ["trait"]) ||
  (w "default" && second ["unsafe", "impl"])

/-- What follows a path without arguments at the beginning of a
statement. -/
def afterPath : Parser (Option (List TokenTree)) := fun s =>
  match plainPath s with
  | .ok (_, t) => .ok (some t.rest, s)
  | .error _ => .ok (none, s)

def letNode (r : Rules) : Parser Unit := do
  let _ ← takeWord "let"
  r.pattern
  if ← acceptPunct ":" then
    let _ ← r.type true
  if ← acceptPunct "=" then
    let _ ← r.expr true
    let endsInBrace ← fun s => .ok (match s.written with
      | .group _ _ .brace _ :: _ => true
      | _ => false, s)
    if ← pure !endsInBrace <&&> acceptWord "else" then
      inGroup .brace r.statements
  let _ ← takePunct ";"

/-- A statement; whether it may stand before another without a
semicolon. -/
def statementNode (r : Rules) : Parser Bool := do
  let attributes ← outerAttributes r
  let after ← afterPath
  let called := match after with
    | some t => Lookahead.punct "!" t
    | none => false
  let t := (after.getD []).drop 1
  let isItem := called && (Lookahead.ident t || Lookahead.word "try" t)
  let further := t.drop 1
  if called && !isItem && Lookahead.group .brace t &&
      !((Lookahead.punct "." further && !isRange further) || Lookahead.punct "?" further) then
    let _ ← plainPath
    let _ ← takePunct "!"
    let _ ← anyGroup
    let _ ← acceptPunct ";"
    return true
  else if ← peekWord "let" then
    letNode r
    return true
  else if isItem || (← ahead startsItem) then
    let _ ← itemBody r attributes
    return true
  else
    let form ← r.statementExpr
    return (← acceptPunct ";") || form = .block || form = .braced

def statementsNode (r : Rules) : Parser Unit := do
  let _ ← iterate (fun _ => do
    let _ ← whileDo (peekPunct ";") (takePunct ";")
    if ← atEnd then return (false, ())
    let complete ← statementNode r
    if ← atEnd then return (false, ())
    if !complete then fail (.misplaced "unexpected token, expected `;`")
    return (true, ())) ()

end Rowsmith.Source.Grammar

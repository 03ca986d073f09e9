/-
Paths with arguments, types, bounds and parameters.

A type is kept as a path where it is one, and otherwise as its text; the
text is that of its tokens, except that lifetimes come before the other
arguments of a path.
-/
import Rowsmith.Source.Grammar.Attribute

namespace Rowsmith.Source.Grammar

open Rowsmith.Source.Parser

-- ================================================================ paths

/-- The arguments of a segment. -/
inductive SegmentArgs
  | absent
  -- Arguments in angle brackets: the types among them.
  | angle (types : List SourceType)
  -- Arguments in parentheses.
  | call
deriving Inhabited

/-- A path: its segments, whether it begins with a double colon, and
whether it belongs to a type. -/
structure PathNode where
  segments : List (String × SegmentArgs)
  leading : Bool
  qualified : Bool

namespace PathNode

/-- The arguments of the last segment. -/
def lastArgs (p : PathNode) : SegmentArgs := (p.segments.getLast?.map (·.2)).getD .absent

def isPlain (p : PathNode) : Bool :=
  p.segments.all fun (_, args) => match args with
    | .absent => true
    | _ => false

/-- The same path with arguments in parentheses at its end. -/
def called (p : PathNode) : PathNode :=
  match p.segments.reverse with
  | (name, _) :: before => { p with segments := ((name, SegmentArgs.call) :: before).reverse }
  | [] => p

def type (p : PathNode) : SourceType :=
  .path (p.segments.map (·.1)) (match p.lastArgs with
    | .angle types => types
    | _ => [])

/-- The path may name an associated item: one segment, which has no
arguments in parentheses. -/
def mayNameItem (p : PathNode) : Bool :=
  !p.qualified && !p.leading && p.segments.length == 1 && (match p.lastArgs with
    | .call => false
    | _ => true)

end PathNode

/-- What a generic argument is. -/
inductive GenericArg
  | lifetime
  | type (type : SourceType)
  | other
deriving Inhabited

/-- A generic argument with its tokens and the comma after it. -/
structure WrittenArg where
  arg : GenericArg
  tokens : List TokenTree
  comma : Bool

def commaToken : List TokenTree := punctTokens [',']

/-- The tokens of generic arguments: lifetimes first, and a comma wherever
one is needed. -/
def WrittenArg.arrange (args : List WrittenArg) : List TokenTree :=
  let isLifetime (a : WrittenArg) : Bool := match a.arg with
    | .lifetime => true
    | _ => false
  let add (done : List TokenTree × Bool) (a : WrittenArg) : List TokenTree × Bool :=
    (done.1 ++ (if done.2 then [] else commaToken) ++ a.tokens ++
      (if a.comma then commaToken else []), a.comma)
  let lifetimes := args.filter isLifetime
  let first := lifetimes.flatMap fun a => a.tokens ++ (if a.comma then commaToken else [])
  let trailing := (lifetimes.getLast?.map (·.comma)).getD true
  ((args.filter fun a => !isLifetime a).foldl add (first, trailing)).1

/-- An argument that is a value: a literal, a name or a block. -/
def constArgument (r : Rules) : Parser Unit := do
  if ← ahead Lookahead.literal then literal
  else if ← peekIdent then
    let _ ← ident
  else if ← peekGroup .brace then inGroup .brace do
    let _ ← innerAttributes r
    r.statements
  else fail (.expected [] (← atEnd))

/-- The next token begins an argument that is a value. -/
def peekConst : Parser Bool := ahead fun t => Lookahead.literal t || Lookahead.group .brace t

-- =============================================================== bounds

/-- What a bound is. -/
inductive BoundForm
  | lifetime
  | trait
  | capture
deriving DecidableEq

/-- What begins a further bound after a plus sign. -/
def startsBound (t : List TokenTree) : Bool :=
  Lookahead.anyWord t || Lookahead.punct "::" t || Lookahead.punct "?" t ||
    Lookahead.lifetime t || Lookahead.group .parenthesis t

/-- Items up to a closing token, with a separator between them; one may
stand at the end. -/
def upTo {α : Type} (closes : List TokenTree → Bool) (separator : String) (p : Parser α) :
    Parser (List α) := do
  let found ← iterate (fun found => do
    if ← ahead closes then return (false, found)
    let found := (← p) :: found
    if ← ahead closes then return (false, found)
    let _ ← takePunct separator
    return (true, found)) []
  return found.reverse

/-- Items with a separator between them, which ends the list when it is
missing; the list may end after it. -/
def joined {α : Type} (closes : List TokenTree → Bool) (separator : String) (p : Parser α) :
    Parser (List α) := do
  let found ← iterate (fun found => do
    if ← ahead closes then return (false, found)
    let found := (← p) :: found
    return (← acceptPunct separator, found)) []
  return found.reverse

/-- The lists of bounds, parameters and arguments, given the rule for a
bound. -/
def closesAngle (t : List TokenTree) : Bool := Lookahead.punct ">" t

/-- The end of a list of bounds in front of one of several tokens. -/
def closesBounds (operators : List String) (t : List TokenTree) : Bool :=
  t.isEmpty || operators.any fun o => Lookahead.punct o t

def isColon (t : List TokenTree) : Bool := Lookahead.punct ":" t && !Lookahead.punct "::" t

/-- The end of the bounds in a condition. -/
def closesCondition (t : List TokenTree) : Bool :=
  t.isEmpty || Lookahead.group .brace t || Lookahead.punct "," t || Lookahead.punct ";" t ||
    isColon t || Lookahead.punct "=" t

/-- A parameter that is a lifetime, with the lifetimes it outlives. -/
def lifetimeParam : Parser Unit := do
  lifetime
  if ← acceptPunct ":" then
    let _ ← joined (closesBounds [",", ">"]) "+" lifetime

/-- The types of a result, given the rule for types. -/
def result (r : Rules) (plus : Bool) : Parser Unit := do
  if ← acceptPunct "->" then
    let _ ← r.type plus

/-- Argument types in parentheses and the type of the result. -/
def callArgs (r : Rules) : Parser TypeForm := do
  let _ ← inGroup .parenthesis (commaList (r.type true))
  if ← acceptPunct "->" then
    let node ← r.type false
    return node.form
  else return .parenthesized

mutual

/-- Generic arguments in angle brackets. The number bounds the depth of
the paths in bounds in arguments. -/
def angleArgs (r : Rules) : Nat → Parser (List SourceType)
  | 0 => fail (.misplaced "nested too deeply")
  | depth + 1 => do
    let _ ← acceptPunct "::"
    let _ ← takePunct "<"
    let args ← iterate (fun (args : List WrittenArg) => do
      if ← ahead closesAngle then return (false, args)
      let (arg, tokens) ← apart (genericArg r depth)
      if ← ahead closesAngle then return (false, args ++ [⟨arg, tokens, false⟩])
      let _ ← apart (takePunct ",")
      return (true, args ++ [⟨arg, tokens, true⟩])) []
    write (WrittenArg.arrange args)
    let _ ← takePunct ">"
    return args.filterMap fun a => match a.arg with
      | .type type => some type
      | _ => none

def genericArg (r : Rules) : Nat → Parser GenericArg
  | 0 => fail (.misplaced "nested too deeply")
  | depth + 1 => do
    if ← ahead fun t => Lookahead.lifetime t && !Lookahead.second (Lookahead.punct "+") t then
      lifetime
      return .lifetime
    if ← peekConst then
      constArgument r
      return .other
    let node ← r.type true
    if node.form = .path true then
      if ← acceptPunct "=" then
        if ← peekConst then constArgument r
        else
          let _ ← r.type true
        return .other
      if ← acceptPunct ":" then
        let _ ← joined (closesBounds [",", ">"]) "+" (bound r false depth)
        return .other
    return .type node.type

/-- A segment of a path. In expressions its arguments follow a double
colon. -/
def pathSegment (r : Rules) (inExpr : Bool) : Nat → Parser (String × SegmentArgs)
  | 0 => fail (.misplaced "nested too deeply")
  | depth + 1 => do
    if ← ahead (Lookahead.oneOf ["super", "self", "crate", "try"]) then
      return (← anyWord, .absent)
    let name ← if ← peekWord "Self" then anyWord else ident
    let hasArgs ← ahead fun t =>
      (!inExpr && Lookahead.punct "<" t && !Lookahead.punct "<=" t) ||
        (Lookahead.punct "::" t && Lookahead.third (Lookahead.punct "<") t)
    if hasArgs then return (name, .angle (← angleArgs r depth))
    else return (name, .absent)

def path (r : Rules) (inExpr : Bool) : Nat → Parser PathNode
  | 0 => fail (.misplaced "nested too deeply")
  | depth + 1 => do
    let leading ← acceptPunct "::"
    let first ← pathSegment r inExpr depth
    let segments ← iterate (fun segments => do
      let further ← ahead fun t =>
        Lookahead.punct "::" t && !Lookahead.third (Lookahead.group .parenthesis) t
      if further then
        let _ ← takePunct "::"
        return (true, segments ++ [← pathSegment r inExpr depth])
      else return (false, segments)) [first]
    return ⟨segments, leading, false⟩

def traitBound (r : Rules) : Nat → Parser Unit
  | 0 => fail (.misplaced "nested too deeply")
  | depth + 1 => do
    let quantified ← peekWord "for"
    if quantified then boundLifetimes r depth
    if ← ahead fun t => Lookahead.punct "~" t && Lookahead.second (Lookahead.word "const") t then
      let _ ← takePunct "~"
      let _ ← takeWord "const"
    if ← acceptPunct "?" then
      if !quantified && (← peekWord "for") then boundLifetimes r depth
    let p ← path r false depth
    let called ← ahead fun t => Lookahead.group .parenthesis t ||
      (Lookahead.punct "::" t && Lookahead.third (Lookahead.group .parenthesis) t)
    if called && (match p.lastArgs with | .absent => true | _ => false) then
      let _ ← apart (acceptPunct "::")
      let _ ← callArgs r

/-- A bound. Only some lists may hold a capture of names. -/
def bound (r : Rules) (captures : Bool) : Nat → Parser BoundForm
  | 0 => fail (.misplaced "nested too deeply")
  | depth + 1 => do
    if ← peekLifetime then
      lifetime
      return .lifetime
    if ← peekWord "use" then
      let pos ← takeWord "use"
      let _ ← takePunct "<"
      let _ ← upTo closesAngle "," do
        if ← peekLifetime then lifetime
        else if ← ahead fun t => Lookahead.ident t || Lookahead.word "Self" t then
          let _ ← anyWord
        else failExpecting ["lifetime", "identifier", "`Self`"]
      let _ ← takePunct ">"
      if captures then return .capture
      else failAt pos (.misplaced "`use<...>` precise capturing syntax is not allowed here")
    if ← peekGroup .parenthesis then inGroup .parenthesis (traitBound r depth)
    else traitBound r depth
    return .trait

/-- Lifetimes that a bound holds for. -/
def boundLifetimes (r : Rules) : Nat → Parser Unit
  | 0 => fail (.misplaced "nested too deeply")
  | depth + 1 => do
    let _ ← takeWord "for"
    let _ ← takePunct "<"
    let _ ← upTo closesAngle "," (genericParam r false depth)
    let _ ← takePunct ">"

/-- A parameter: a lifetime, a type or a value. Where it says so, a
parameter may go without a name. -/
def genericParam (r : Rules) (nameless : Bool) : Nat → Parser Unit
  | 0 => fail (.misplaced "nested too deeply")
  | depth + 1 => do
    let _ ← outerAttributes r
    if ← peekLifetime then lifetimeParam
    else if ← peekIdent then
      let _ ← ident
      if ← acceptPunct ":" then
        let _ ← joined (closesBounds [",", ">", "="]) "+" (bound r false depth)
      if ← acceptPunct "=" then
        let _ ← r.type true
    else if ← peekWord "const" then
      let _ ← takeWord "const"
      let _ ← ident
      let _ ← takePunct ":"
      let _ ← r.type true
      if ← acceptPunct "=" then constArgument r
    else if nameless && (← peekWord "_") then
      let _ ← anyWord
    else failExpecting ["lifetime", "identifier", "`const`"]

end

/-- How deep paths, bounds and arguments are looked into before the rule
for types is asked again: none of these rules enters itself without
reading a token. -/
def pathDepth (r : Rules) : Nat := 8 * r.depth + 16

def pathNode (r : Rules) (inExpr : Bool) : Parser PathNode := path r inExpr (pathDepth r)

def boundNode (r : Rules) (captures : Bool) : Parser BoundForm := bound r captures (pathDepth r)

/-- Arguments of a method, of any depth. -/
def angleNode (r : Rules) : Parser (List SourceType) := angleArgs r (pathDepth r)

/-- Lifetimes that a type holds for, if there are any. -/
def acceptLifetimes (r : Rules) : Parser Bool := do
  if ← peekWord "for" then
    boundLifetimes r (pathDepth r)
    return true
  else return false

/-- A path that may belong to a type. -/
def qualifiedPath (r : Rules) (inExpr : Bool) : Parser PathNode := do
  if ← acceptPunct "<" then
    let _ ← r.type true
    if ← acceptWord "as" then
      let _ ← pathNode r false
    let _ ← takePunct ">"
    let _ ← takePunct "::"
    let segments ← iterate (fun segments => do
      let segments := segments ++ [← pathSegment r inExpr (pathDepth r)]
      return (← acceptPunct "::", segments)) []
    return ⟨segments, false, true⟩
  else pathNode r inExpr

-- ================================================================ types

/-- The words and marks that begin a path. -/
def startsPath (t : List TokenTree) : Bool :=
  Lookahead.ident t || Lookahead.oneOf ["super", "self", "Self", "crate"] t ||
    Lookahead.punct "::" t || Lookahead.punct "<" t

/-- What a type is: a path or another known type, or one that is kept as
text. -/
inductive TypeOutcome
  | known (type : SourceType)
  | kept (shape : TypeShape)

/-- One or more bounds, and whether one of them is a trait. -/
def boundList (r : Rules) (plus captures : Bool) : Parser (List BoundForm) := do
  let first ← boundNode r captures
  let found ← iterate (fun found => do
    if ← pure plus <&&> acceptPunct "+" then
      if ← ahead startsBound then return (true, (← boundNode r captures) :: found)
      else return (false, found)
    else return (false, found)) [first]
  return found.reverse

/-- Bounds with a trait among them. -/
def traitBounds (r : Rules) (pos : Position) (plus captures : Bool) : Parser Nat := do
  let bounds ← boundList r plus captures
  if bounds.contains .trait then return bounds.length
  else failAt pos (.misplaced "at least one trait is required for an object type")

/-- Bounds after one that was already read. -/
def furtherBounds (r : Rules) : Parser Unit := do
  let _ ← whileDo (peekPunct "+") do
    let _ ← takePunct "+"
    boundNode r false

/-- A parameter of a function type, which may have a name. -/
def functionParam (r : Rules) (first : Bool) : Parser Unit := do
  let _ ← outerAttributes r
  let named (t : List TokenTree) : Bool :=
    (Lookahead.ident t || Lookahead.word "_" t || (first && Lookahead.word "self" t)) &&
      Lookahead.second (fun t => Lookahead.punct ":" t && !Lookahead.punct "::" t) t
  let mutableSelf (t : List TokenTree) : Bool :=
    first && Lookahead.word "mut" t && Lookahead.second (Lookahead.word "self") t
  if ← ahead mutableSelf then
    let _ ← takeWord "mut"
    if ← ahead named then
      let _ ← anyWord
      let _ ← takePunct ":"
      let _ ← r.type true
    else
      let _ ← takeWord "self"
  else
    if ← ahead named then
      let _ ← anyWord
      let _ ← takePunct ":"
    let _ ← r.type true

/-- A convention of calling, if there is one. -/
def acceptAbi : Parser Unit := do
  if ← acceptWord "extern" then
    if ← ahead Lookahead.string then
      let _ ← string

def functionType (r : Rules) : Parser Unit := do
  let _ ← acceptLifetimes r
  let _ ← acceptWord "unsafe"
  acceptAbi
  let _ ← takeWord "fn"
  inGroup .parenthesis do
    let variadic (t : List TokenTree) : Bool :=
      Lookahead.punct "..." t ||
        ((Lookahead.ident t || Lookahead.word "_" t) && Lookahead.second (Lookahead.punct ":") t &&
          Lookahead.third (Lookahead.punct "...") t)
    let _ ← iterate (fun first => do
      if ← atEnd then return (false, first)
      let _ ← outerAttributes r
      if ← ahead variadic then
        if !(← peekPunct "...") then
          let _ ← anyWord
          let _ ← takePunct ":"
        let _ ← takePunct "..."
        let _ ← acceptPunct ","
        return (false, first)
      functionParam r first
      if ← atEnd then return (false, first)
      let _ ← takePunct ","
      return (true, false)) true
  result r false

/-- A type in parentheses, or a tuple. -/
def parenthesizedType (r : Rules) (plus : Bool) : Parser (TypeOutcome × TypeForm) := do
  let (node, isTuple, isBound) ← inGroup .parenthesis do
    if ← atEnd then return (none, true, false)
    if ← peekLifetime then
      let (_, tokens) ← recorded (traitBounds r (← here) true false)
      let type := SourceType.verbatim .traitObject (TokenTree.renderAll tokens)
      return (some ⟨type, .other⟩, false, false)
    if ← peekPunct "?" then
      let _ ← traitBound r (pathDepth r)
      return (none, false, true)
    let node ← r.type true
    if ← peekPunct "," then
      let _ ← takePunct ","
      let _ ← commaList (r.type true)
      return (none, true, false)
    return (some node, false, false)
  if isTuple then return (.kept .tuple, .other)
  if isBound then
    furtherBounds r
    return (.kept .traitObject, .bounds false)
  let some node := (node : Option TypeNode) | return (.kept .tuple, .other)
  let isBoundForm := match node.form with
    | .path _ => true
    | .bounds single => single
    | _ => false
  if plus && isBoundForm && (← peekPunct "+") then
    furtherBounds r
    return (.kept .traitObject, .bounds false)
  return (.known node.type, .parenthesized)

/-- A type that begins with a path: the path, a call of something defined
by rules, or bounds. -/
def pathType (r : Rules) (plus quantified : Bool) : Parser (TypeOutcome × TypeForm) := do
  let p ← qualifiedPath r false
  let called ← ahead fun t => Lookahead.group .parenthesis t ||
    (Lookahead.punct "::" t && Lookahead.third (Lookahead.group .parenthesis) t)
  let p ← if called && (match p.lastArgs with | .absent => true | _ => false) then do
      let _ ← apart (acceptPunct "::")
      let form ← callArgs r
      let p := p.called
      if form = .parenthesized then
        iterate (fun (p : PathNode) => do
          let further ← ahead fun t =>
            Lookahead.punct "::" t && !Lookahead.third (Lookahead.group .parenthesis) t
          if further then
            let _ ← takePunct "::"
            let segment ← pathSegment r false (pathDepth r)
            return (true, { p with segments := p.segments ++ [segment] })
          else return (false, p)) p
      else pure p
    else pure p
  if p.qualified then return (.kept .other, .other)
  if p.isPlain && (← ahead fun t => Lookahead.punct "!" t && !Lookahead.punct "!=" t) then
    let _ ← takePunct "!"
    let _ ← anyGroup
    return (.kept .other, .other)
  if quantified || (plus && (← peekPunct "+")) then
    let bounds ← iterate (fun bounds => do
      if ← pure plus <&&> acceptPunct "+" then
        if ← ahead startsBound then
          let _ ← boundNode r false
          return (true, bounds + 1)
        else return (false, bounds + 1)
      else return (false, bounds)) 1
    return (.kept .traitObject, .bounds (bounds == 1))
  return (.known p.type, .path p.mayNameItem)

/-- What begins a type, in the order in which it is looked for. -/
def typeStarts : List String :=
  ["`for`", "parentheses", "`fn`", "`unsafe`", "`extern`", "identifier", "`::`", "`<`", "`dyn`",
    "square brackets", "`*`", "`&`", "`!`", "`impl`", "`_`", "lifetime"]

/-- What may follow the lifetimes a type holds for. -/
def quantifiedStarts : List String :=
  ["identifier", "`fn`", "`unsafe`", "`extern`", "`super`", "`self`", "`Self`", "`crate`"]

def typeOutcome (r : Rules) (plus : Bool) : Parser (TypeOutcome × TypeForm) := do
  let quantified ← acceptLifetimes r
  if quantified then
    let follows ← ahead fun t => Lookahead.ident t ||
      Lookahead.oneOf ["fn", "unsafe", "extern", "super", "self", "Self", "crate"] t
    if !follows then failExpecting quantifiedStarts
  if ← peekGroup .parenthesis then parenthesizedType r plus
  else if ← ahead (Lookahead.oneOf ["fn", "unsafe", "extern"]) then
    functionType r
    return (.kept .other, .other)
  else if ← ahead startsPath then pathType r plus quantified
  else if ← peekWord "dyn" then
    let pos ← takeWord "dyn"
    let starred ← acceptPunct "*"
    let _ ← traitBounds r pos plus false
    return (.kept (if starred then .other else .traitObject), .other)
  else if ← peekGroup .bracket then
    inGroup .bracket do
      let _ ← r.type true
      if ← acceptPunct ";" then
        let _ ← r.expr true
        return (.kept .array, .other)
      else return (.kept .slice, .other)
  else if ← peekPunct "*" then
    let _ ← takePunct "*"
    if ← ahead (Lookahead.oneOf ["const", "mut"]) then
      let _ ← anyWord
    else failExpecting ["`const`", "`mut`"]
    let _ ← r.type false
    return (.kept .other, .other)
  else if ← peekPunct "&" then
    let _ ← takePunct "&"
    if ← peekLifetime then lifetime
    let _ ← acceptWord "mut"
    let _ ← r.type false
    return (.kept .reference, .other)
  else if ← ahead fun t => Lookahead.punct "!" t && !Lookahead.punct "!=" t then
    let _ ← takePunct "!"
    return (.kept .other, .other)
  else if ← peekWord "impl" then
    let pos ← takeWord "impl"
    let _ ← traitBounds r pos plus true
    return (.kept .other, .other)
  else if ← peekWord "_" then
    let _ ← anyWord
    return (.kept .other, .other)
  else if ← peekLifetime then
    let bounds ← traitBounds r (← here) true false
    return (.kept .traitObject, .bounds (bounds == 1))
  else failExpecting typeStarts

def typeNode (r : Rules) (plus : Bool) : Parser TypeNode := do
  let ((outcome, form), tokens) ← recorded (typeOutcome r plus)
  return match outcome with
    | .known type => ⟨type, form⟩
    | .kept shape => ⟨.verbatim shape (TokenTree.renderAll tokens), form⟩

end Rowsmith.Source.Grammar

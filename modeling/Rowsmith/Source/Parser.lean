/-
Parsers over token trees. A parser takes tokens off the front of a group
and remembers three things besides: where the group ends, which is the
place of whatever is missing there; the tokens it has read, in the form in
which they are written out; and the first group in which more was found
than the grammar has room for. The last is no reason to stop at once: it
counts only if nothing else is wrong.

Loops carry a bound on the number of rounds, taken from the number of
tokens that are left: a round reads at least one.
-/
import Rowsmith.Source.Literal
import Rowsmith.Source.SyntaxError

namespace Rowsmith.Source

/-- Where a parser stands. -/
structure ParseState where
  -- The tokens of the group that are left.
  rest : List TokenTree
  -- Where the group ends.
  scope : Position
  -- The tokens read, in reverse.
  written : List TokenTree
  -- The first group that held too much.
  leftover : Option SyntaxError

abbrev Parser := StateT ParseState (Except SyntaxError)

namespace ParseState

def start (tokens : List TokenTree) (scope : Position) : ParseState := ⟨tokens, scope, [], none⟩

/-- The place of the next token, or of the end of the group. -/
def pos (s : ParseState) : Position := (s.rest.head?.map TokenTree.pos).getD s.scope

/-- The refusal of a group that ends here, if tokens are left in it. -/
def surplus (s : ParseState) (delimiter : Option Delimiter) : Option SyntaxError :=
  s.rest.head?.map fun token => ⟨token.pos, .leftover delimiter⟩

end ParseState

namespace Parser

-- ============================================================== running

/-- Runs a parser over all tokens of a group. -/
def run {α : Type} (p : Parser α) (tokens : List TokenTree) (scope : Position) :
    Except SyntaxError α := do
  let (a, s) ← StateT.run p (.start tokens scope)
  match s.leftover.or (s.surplus none) with
  | some e => throw e
  | none => return a

def fail {α : Type} (cause : SyntaxCause) : Parser α := fun s => .error ⟨s.pos, cause⟩

/-- Fails at the next token or the end of the group, saying which. -/
def failExpecting {α : Type} (what : List String) : Parser α := fun s =>
  .error ⟨s.pos, .expected what s.rest.isEmpty⟩

def failAt {α : Type} (pos : Position) (cause : SyntaxCause) : Parser α := fun _ =>
  .error ⟨pos, cause⟩

def here : Parser Position := fun s => .ok (s.pos, s)

def atEnd : Parser Bool := fun s => .ok (s.rest.isEmpty, s)

/-- What a parser would say, without reading. -/
def ahead (test : List TokenTree → Bool) : Parser Bool := fun s => .ok (test s.rest, s)

def write (tokens : List TokenTree) : Parser Unit :=
  modify fun s => { s with written := tokens.reverse ++ s.written }

/-- The number of tokens that are left. -/
def left : Parser Nat := fun s => .ok (s.rest.length, s)

/-- Runs a parser, or does nothing if it fails. -/
def attempt {α : Type} (p : Parser α) : Parser (Option α) := fun s =>
  match p s with
  | .ok (a, t) => .ok (some a, t)
  | .error _ => .ok (none, s)

/-- Runs a parser and sets its tokens apart instead of noting them. -/
def apart {α : Type} (p : Parser α) : Parser (α × List TokenTree) := fun s => do
  let (a, t) ← p { s with written := [] }
  return ((a, t.written.reverse), { t with written := s.written })

/-- Runs a parser and also gives the tokens it read. -/
def recorded {α : Type} (p : Parser α) : Parser (α × List TokenTree) := do
  let (a, tokens) ← apart p
  write tokens
  return (a, tokens)

-- ================================================================ loops

/-- Repeats a step until it asks to stop, at most so many times. -/
def iterateWithin {α : Type} (step : α → Parser (Bool × α)) : Nat → α → Parser α
  | 0, a => pure a
  | bound + 1, a => do
    let (again, a) ← step a
    if again then iterateWithin step bound a else pure a

/-- Repeats a step that reads a token each time until it asks to stop. -/
def iterate {α : Type} (step : α → Parser (Bool × α)) (a : α) : Parser α := fun s =>
  iterateWithin step (s.rest.length + 1) a s

/-- Repeats a parser while a condition holds. -/
def whileDo {α : Type} (condition : Parser Bool) (p : Parser α) : Parser (List α) := do
  let found ← iterate (fun found => do
    if ← condition then return (true, (← p) :: found) else return (false, found)) []
  return found.reverse

end Parser

-- ================================================================ words

-- The tests that a parser makes before it reads. They look at one token or
-- a few, where an operator of several characters is several tokens.
namespace Lookahead

/-- The next token is a given word. -/
def word (text : String) : List TokenTree → Bool
  | .word _ found :: _ => found == text
  | _ => false

def anyWord : List TokenTree → Bool
  | .word _ _ :: _ => true
  | _ => false

/-- Words that are no identifiers. -/
def reserved : List String :=
  ["_", "abstract", "as", "async", "await", "become", "box", "break", "const", "continue",
    "crate", "do", "dyn", "else", "enum", "extern", "false", "final", "fn", "for", "if", "impl",
    "in", "let", "loop", "macro", "match", "mod", "move", "mut", "override", "priv", "pub", "ref",
    "return", "Self", "self", "static", "struct", "super", "trait", "true", "try", "type",
    "typeof", "unsafe", "unsized", "use", "virtual", "where", "while", "yield"]

/-- The next token is an identifier. -/
def ident : List TokenTree → Bool
  | .word _ text :: _ => !reserved.contains text
  | _ => false

def lifetime : List TokenTree → Bool
  | .lifetime _ _ :: _ => true
  | _ => false

def group (delimiter : Delimiter) : List TokenTree → Bool
  | .group _ _ found _ :: _ => found == delimiter
  | _ => false

/-- The next tokens begin with the characters of an operator, each joined
to the next. -/
def punctChars : List Char → List TokenTree → Bool
  | [], _ => true
  | [c], .punct _ found _ :: _ => found == c
  | c :: more, .punct _ found joint :: rest => found == c && joint && punctChars more rest
  | _, _ => false

/-- The next tokens begin with an operator. -/
def punct (operator : String) : List TokenTree → Bool := punctChars operator.toList

/-- The next token is a literal, a truth value, or a number with a sign. -/
def literal : List TokenTree → Bool
  | .literal _ _ :: _ => true
  | .word _ text :: _ => text == "true" || text == "false"
  | .punct _ '-' _ :: .literal _ text :: _ => isNumberLiteral text
  | _ => false

/-- The next token is a string literal. -/
def string : List TokenTree → Bool
  | .literal _ text :: _ => (stringValue? text).isSome
  | _ => false

/-- What a test says of the tokens after the first. -/
def second (test : List TokenTree → Bool) (tokens : List TokenTree) : Bool := test (tokens.drop 1)

/-- What a test says of the tokens after the first two. -/
def third (test : List TokenTree → Bool) (tokens : List TokenTree) : Bool := test (tokens.drop 2)

def oneOf (words : List String) (tokens : List TokenTree) : Bool := words.any fun w => word w tokens

end Lookahead

namespace Parser

open Lookahead (punctChars)

/-- The next token is a given word. -/
def peekWord (text : String) : Parser Bool := ahead (Lookahead.word text)

/-- The next tokens are an operator. -/
def peekPunct (operator : String) : Parser Bool := ahead (Lookahead.punct operator)

def peekGroup (delimiter : Delimiter) : Parser Bool := ahead (Lookahead.group delimiter)

/-- The next token is an identifier. -/
def peekIdent : Parser Bool := ahead Lookahead.ident

def peekLifetime : Parser Bool := ahead Lookahead.lifetime

def skip : Parser Unit := fun s =>
  match s.rest with
  | token :: rest => .ok ((), { s with rest := rest, written := token :: s.written })
  | [] => .ok ((), s)

def takeWord (text : String) : Parser Position := do
  let pos ← here
  if ← peekWord text then skip else failExpecting ["`" ++ text ++ "`"]
  return pos

/-- Reads a given word if it is next. -/
def acceptWord (text : String) : Parser Bool := do
  if ← peekWord text then
    skip
    return true
  else return false

/-- The characters of an operator as tokens, each joined to the next. -/
def punctTokens : List Char → List TokenTree
  | [] => []
  | [c] => [.punct .start c false]
  | c :: more => .punct .start c true :: punctTokens more

def takePunct (operator : String) : Parser Position := do
  let pos ← here
  if ← peekPunct operator then
    let chars := operator.toList
    modify fun s => { s with rest := s.rest.drop chars.length }
    write (punctTokens chars)
    return pos
  else fail (.expected ["`" ++ operator ++ "`"] false)

/-- Reads an operator if it is next. -/
def acceptPunct (operator : String) : Parser Bool := do
  if ← peekPunct operator then
    let _ ← takePunct operator
    return true
  else return false

/-- Reads any word, keywords included. -/
def anyWord : Parser String := fun s =>
  match s.rest with
  | .word pos text :: rest =>
    .ok (text, { s with rest := rest, written := .word pos text :: s.written })
  | _ => failExpecting ["ident"] s

def ident : Parser String := fun s =>
  match s.rest with
  | .word pos text :: _ =>
    if Lookahead.ident s.rest then anyWord s else .error ⟨pos, .reserved text⟩
  | _ => failExpecting ["identifier"] s

def lifetime : Parser Unit := do
  if ← peekLifetime then skip else failExpecting ["lifetime"]

/-- Reads a literal, with a sign if it is a number with one. -/
def literal : Parser Unit := do
  if ← ahead Lookahead.literal then
    if ← acceptPunct "-" then skip else skip
  else failExpecting ["literal"]

/-- Reads a string literal and gives its value. -/
def string : Parser String := fun s =>
  match s.rest with
  | .literal pos text :: rest =>
    match stringValue? text with
    | some value => .ok (value, { s with rest := rest, written := .literal pos text :: s.written })
    | none => failExpecting ["string literal"] s
  | _ => failExpecting ["string literal"] s

/-- Reads a group whose content a parser reads. -/
def inGroup {α : Type} (delimiter : Delimiter) (p : Parser α) : Parser α := fun s =>
  match s.rest with
  | .group pos closed found content :: rest =>
    if found = delimiter then do
      let (a, t) ← p (.start content closed)
      return (a, { s with
        rest := rest
        written := .group pos closed found t.written.reverse :: s.written
        leftover := s.leftover.or (t.leftover.or (t.surplus (some delimiter))) })
    else failExpecting [delimiter.name] s
  | _ => failExpecting [delimiter.name] s

/-- Reads a group of any brackets without looking into it. -/
def anyGroup : Parser Delimiter := fun s =>
  match s.rest with
  | .group pos closed delimiter content :: rest =>
    .ok (delimiter, { s with
      rest := rest, written := .group pos closed delimiter content :: s.written })
  | _ => failExpecting ["delimiter"] s

/-- Reads items with commas between them up to the end of the group; a
comma may stand at the end. -/
def commaList {α : Type} (p : Parser α) : Parser (List α) := do
  let found ← iterate (fun found => do
    if ← atEnd then return (false, found)
    let found := (← p) :: found
    if ← atEnd then return (false, found)
    let _ ← takePunct ","
    return (true, found)) []
  return found.reverse

/-- Chooses among alternatives by what is next. The names of the
alternatives that were looked for are what was expected if none
applies. -/
def choose {α : Type} (alternatives : List (String × (List TokenTree → Bool) × Parser α)) :
    Parser α := fun s =>
  match alternatives.find? fun (_, test, _) => test s.rest with
  | some (_, _, p) => p s
  | none => failExpecting (alternatives.map (·.1)) s

end Parser

end Rowsmith.Source

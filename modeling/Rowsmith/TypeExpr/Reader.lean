/-
Reading type expressions. The grammar is that of path types:

    type  ::=  blank* path blank* arguments?
    arguments  ::=  < type blank* ( , type blank* )* >

where a path is a maximal run of letters, digits, underscores and colons
that is not empty and neither begins nor ends with a colon. Blanks may
follow the whole expression.

Blanks are skipped by bytes. A blank of several bytes cannot be skipped
that way, so a text with one in a place where blanks are allowed is
neither accepted nor rejected: reading it is a defect.
-/
import Rowsmith.Defect
import Rowsmith.TypeExpr

namespace Rowsmith.TypeExpr

open Text

/-- Why a text is not read as a type. -/
inductive Refusal
  -- The text does not follow the grammar.
  | malformed
  -- A blank of several bytes stands where blanks are skipped.
  | splitBlank
deriving DecidableEq, Repr

def isPathChar (c : Char) : Bool :=
  isAlphanumeric c || c == '_' || c == ':'

/-- A run of path characters that is a path. -/
def isPathText (run : List Char) : Bool :=
  !run.isEmpty && run.head? != some ':' && run.getLast? != some ':'

def skipBlanks : List Char → Except Refusal (List Char)
  | [] => .ok []
  | c :: rest =>
    if isBlank c then
      if c.toNat < 0x80 then skipBlanks rest else .error .splitBlank
    else .ok (c :: rest)

mutual

/-- Reads a type at the front of a text and returns what follows it. The
number bounds the nesting. -/
def readType : Nat → List Char → Except Refusal (TypeExpr × List Char)
  | 0, _ => .error .malformed
  | n + 1, s => do
    let s ← skipBlanks s
    let run := s.takeWhile isPathChar
    if isPathText run then
      let s ← skipBlanks (s.dropWhile isPathChar)
      match s with
      | '<' :: s =>
        let (args, s) ← readArgs n s
        return (generic (String.ofList run) args, s)
      | s => return (named (String.ofList run), s)
    else throw .malformed

/-- Reads arguments up to and including the closing bracket. -/
def readArgs : Nat → List Char → Except Refusal (List TypeExpr × List Char)
  | 0, _ => .error .malformed
  | n + 1, s => do
    let (arg, s) ← readType n s
    let s ← skipBlanks s
    match s with
    | ',' :: s =>
      let (args, s) ← readArgs n s
      return (arg :: args, s)
    | '>' :: s => return ([arg], s)
    | _ => throw .malformed

end

/-- Reads a whole text as a type. Every step of the reader that opens a
bracket or passes a comma has read a character of a path before, so
twice the length of the text bounds the nesting. -/
def read (text : String) : Except Refusal TypeExpr := do
  let s := text.toList
  let (t, rest) ← readType (2 * s.length + 2) s
  let rest ← skipBlanks rest
  if rest.isEmpty then return t else throw .malformed

/-- The message for a text that is not a type. -/
def malformedMessage (text : String) : String :=
  "cannot parse type `" ++ text ++ "`"

/-- The type a text names: the one it reads as, or else the text kept
verbatim. -/
def ofText (text : String) : Except Defect TypeExpr :=
  match read text with
  | .ok t => .ok t
  | .error .malformed => .ok (verbatim .other text)
  | .error .splitBlank => .error .splitCharacter

end Rowsmith.TypeExpr

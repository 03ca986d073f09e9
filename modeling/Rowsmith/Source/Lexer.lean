/-
From text to token trees. Reading goes in two steps: the text is cut into
lexemes, each with its place, up to the first thing that is none; then
brackets are matched. The place of a failure is that of the first thing
that is no token or closes the wrong bracket, or else that of the
innermost bracket left open.

A comment is a blank, unless it documents something: then it stands for
an attribute that holds its text.
-/
import Rowsmith.Source.Literal
import Rowsmith.Source.Token
import Rowsmith.Text.Quoted

namespace Rowsmith.Source

open Text

-- =============================================================== blanks

/-- A blank between tokens; marks of writing direction are blanks too. -/
def isGap (c : Char) : Bool := isBlank c || c == '\u200e' || c == '\u200f'

/-- The characters up to the end of the line. -/
def restOfLine : List Char → List Char × List Char
  | [] => ([], [])
  | '\n' :: rest => ([], '\n' :: rest)
  | '\r' :: '\n' :: rest => ([], '\r' :: '\n' :: rest)
  | c :: rest =>
    let (line, after) := restOfLine rest
    (c :: line, after)

/-- Reads a block comment, which may hold others, after its opening. The
depth comes first; the text read is all but the mark that closes the
outermost comment. -/
def scanBlock : Nat → List Char → Option (List Char × List Char)
  | _, [] => none
  | depth, '/' :: '*' :: rest =>
    (scanBlock (depth + 1) rest).map fun (text, after) => ('/' :: '*' :: text, after)
  | 0, '*' :: '/' :: rest => some ([], rest)
  | depth + 1, '*' :: '/' :: rest =>
    (scanBlock depth rest).map fun (text, after) => ('*' :: '/' :: text, after)
  | depth, c :: rest => (scanBlock depth rest).map fun (text, after) => (c :: text, after)

/-- What a comment is. -/
inductive Comment
  -- A blank.
  | plain
  -- The text of documentation, of what follows or of what it is in.
  | doc (inner : Bool) (text : List Char)
deriving DecidableEq, Repr

/-- Reads a comment. A comment of four or more slashes, of three or more
stars, or without content documents nothing. -/
def scanComment : List Char → Option (Comment × List Char)
  | '/' :: '/' :: '!' :: rest =>
    let (text, after) := restOfLine rest
    some (.doc true text, after)
  | '/' :: '/' :: '/' :: '/' :: rest => some (.plain, (restOfLine rest).2)
  | '/' :: '/' :: '/' :: rest =>
    let (text, after) := restOfLine rest
    some (.doc false text, after)
  | '/' :: '/' :: rest => some (.plain, (restOfLine rest).2)
  | '/' :: '*' :: '*' :: '/' :: rest => some (.plain, rest)
  | '/' :: '*' :: '!' :: rest =>
    (scanBlock 0 rest).map fun (text, after) => (.doc true text, after)
  | '/' :: '*' :: '*' :: '*' :: rest =>
    (scanBlock 0 ('*' :: '*' :: rest)).map fun (_, after) => (.plain, after)
  | '/' :: '*' :: '*' :: rest =>
    (scanBlock 0 ('*' :: rest)).map fun (text, after) => (.doc false (text.drop 1), after)
  | '/' :: '*' :: rest => (scanBlock 0 rest).map fun (_, after) => (.plain, after)
  | _ => none

/-- Every carriage return stands before a line feed. -/
def hasNoBareReturn : List Char → Bool
  | [] => true
  | '\r' :: '\n' :: rest => hasNoBareReturn rest
  | '\r' :: _ => false
  | _ :: rest => hasNoBareReturn rest

/-- Drops blanks and comments that are blanks. The number bounds the
comments and blanks that are dropped. -/
def dropGaps : Nat → List Char → List Char
  | 0, chars => chars
  | bound + 1, chars =>
    match scanComment chars with
    | some (.plain, rest) => dropGaps bound rest
    | _ =>
      match chars with
      | c :: rest => if isGap c then dropGaps bound rest else chars
      | [] => []

-- ============================================================== lexemes

/-- A piece of text: a token, or a bracket. -/
inductive Lexeme
  | token (tree : TokenTree)
  | opening (pos : Position) (delimiter : Delimiter)
  | closing (pos : Position) (delimiter : Delimiter)
deriving Repr

/-- The characters that are punctuation. -/
def isPunct (c : Char) : Bool := "~!@#$%^&*-=+|;:,<.>/?'".toList.contains c

/-- Punctuation begins here. A slash that begins a comment is none. -/
def startsPunct : List Char → Bool
  | '/' :: '/' :: _ => false
  | '/' :: '*' :: _ => false
  | c :: _ => isPunct c
  | [] => false

/-- Words that cannot be marked as raw. -/
def neverRaw : List String := ["_", "super", "self", "Self", "crate"]

/-- Reads an identifier or keyword, with its marker if it is raw. -/
def scanAnyWord (chars : List Char) : Option (String × List Char) :=
  match chars with
  | 'r' :: '#' :: more => do
    let rest ← scanWord more
    let name := String.ofList (more.take (more.length - rest.length))
    if neverRaw.contains name then none else some ("r#" ++ name, rest)
  | _ => do
    let rest ← scanWord chars
    some (String.ofList (chars.take (chars.length - rest.length)), rest)

/-- The beginnings of literals, which are no identifiers even if the
literal has no end. -/
def literalOpenings : List (List Char) :=
  ["r\"", "r#\"", "r##", "b\"", "b'", "br\"", "br#", "c\"", "cr\"", "cr#"].map String.toList

/-- Reads an identifier or keyword that does not begin a literal. -/
def scanIdent (chars : List Char) : Option (String × List Char) :=
  if literalOpenings.any fun opening => opening.isPrefixOf chars then none else scanAnyWord chars

/-- Reads a lifetime after its apostrophe. A name before another
apostrophe is a character with too many letters, and a mark after the name
makes it none either. -/
def scanLifetime (chars : List Char) : Option (String × List Char) := do
  let (name, rest) ← scanAnyWord chars
  match rest with
  | '\'' :: _ => none
  | '#' :: _ => if ['r', '#'].isPrefixOf chars then some (name, rest) else none
  | _ => some (name, rest)

/-- The bracket a character opens. -/
def opened? : Char → Option Delimiter
  | '(' => some .parenthesis
  | '[' => some .bracket
  | '\x7b' => some .brace
  | _ => none

/-- The bracket a character closes. -/
def closed? : Char → Option Delimiter
  | ')' => some .parenthesis
  | ']' => some .bracket
  | '\x7d' => some .brace
  | _ => none

/-- Reads one token or bracket that begins at a place. -/
def scanLexeme (pos : Position) (chars : List Char) : Option (Lexeme × List Char) :=
  match scanLiteral chars with
  | some rest =>
    let text := String.ofList (chars.take (chars.length - rest.length))
    some (.token (.literal pos text), rest)
  | none =>
    match chars with
    | [] => none
    | '\'' :: rest =>
      (scanLifetime rest).map fun (name, rest) => (.token (.lifetime pos name), rest)
    | c :: rest =>
      match opened? c, closed? c with
      | some delimiter, _ => some (.opening pos delimiter, rest)
      | none, some delimiter => some (.closing pos delimiter, rest)
      | none, none =>
        if startsPunct chars then some (.token (.punct pos c (startsPunct rest)), rest)
        else (scanIdent chars).map fun (text, rest) => (.token (.word pos text), rest)

/-- The tokens that a documentation comment stands for, all of them at the
place of the comment, which ends before `after`. -/
def docLexemes (pos after : Position) (inner : Bool) (text : List Char) : List Lexeme :=
  let last : Position := ⟨after.line, after.column - 1⟩
  let content : List TokenTree :=
    [.word pos "doc", .punct pos '=' false, .literal pos (quoted (String.ofList text))]
  [.token (.punct pos '#' false)] ++ (if inner then [.token (.punct pos '!' false)] else []) ++
    [.token (.group pos last .bracket content)]

/-- Cuts a text into lexemes, up to the first thing that is none. The
first number bounds the number of lexemes. -/
def lexemes : Nat → Position → List Char → List Lexeme × Option Position
  | 0, pos, _ => ([], some pos)
  | bound + 1, pos, chars =>
    let rest := dropGaps chars.length chars
    let pos := pos.advance (chars.take (chars.length - rest.length))
    let go (found : List Lexeme) (after : List Char) : List Lexeme × Option Position :=
      let (more, failure) :=
        lexemes bound (pos.advance (rest.take (rest.length - after.length))) after
      (found ++ more, failure)
    if rest.isEmpty then ([], none)
    else
      match scanComment rest with
      | some (.doc inner text, after) =>
        if hasNoBareReturn text then
          go (docLexemes pos (pos.advance (rest.take (rest.length - after.length))) inner text)
            after
        else ([], some pos)
      | _ =>
        match scanLexeme pos rest with
        | some (found, after) => go [found] after
        | none => ([], some pos)

-- ============================================================= matching

/-- A group that is still open: its bracket, and what came before it, in
reverse. -/
structure OpenGroup where
  pos : Position
  delimiter : Delimiter
  before : List TokenTree

/-- Matches brackets. The tokens of the current group are held in
reverse; `failure` is where the lexemes were cut short. -/
def matchBrackets (failure : Option Position) :
    List Lexeme → List OpenGroup → List TokenTree → Except Position (List TokenTree)
  | [], stack, current =>
    match failure, stack with
    | some pos, _ => .error pos
    | none, [] => .ok current.reverse
    | none, group :: _ => .error group.pos
  | .token tree :: rest, stack, current => matchBrackets failure rest stack (tree :: current)
  | .opening pos delimiter :: rest, stack, current =>
    matchBrackets failure rest (⟨pos, delimiter, current⟩ :: stack) []
  | .closing pos delimiter :: rest, stack, current =>
    match stack with
    | [] => .error pos
    | group :: stack =>
      if group.delimiter = delimiter then
        matchBrackets failure rest stack
          (.group group.pos pos delimiter current.reverse :: group.before)
      else .error pos

/-- The token trees of a text, or the place of what is wrong with its
tokens. -/
def tokenTrees (text : List Char) : Except Position (List TokenTree) :=
  let (found, failure) := lexemes (text.length + 1) .start text
  matchBrackets failure found [] []

-- ================================================================ files

/-- Drops a byte order mark at the front. -/
def dropMark : List Char → List Char
  | '\ufeff' :: rest => rest
  | chars => chars

/-- Drops the line that names an interpreter, but not its end. A line that
begins an attribute is none, and the bracket of the attribute may stand
after blanks and comments. -/
def dropInterpreter : List Char → List Char
  | '#' :: '!' :: rest =>
    match dropGaps rest.length rest with
    | '[' :: _ => '#' :: '!' :: rest
    | _ => rest.dropWhile (· != '\n')
  | chars => chars

/-- The token trees of a file. Behind the mark at the front of the file a
second one is skipped, which counts as a character. -/
def fileTokens (text : String) : Except Position (List TokenTree) :=
  let chars := dropInterpreter (dropMark text.toList)
  let body := dropMark chars
  let (found, failure) := lexemes (body.length + 1)
    (Position.start.advance (chars.take (chars.length - body.length))) body
  matchBrackets failure found [] []

end Rowsmith.Source

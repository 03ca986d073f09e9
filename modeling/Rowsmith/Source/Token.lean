/-
Tokens of the source language, as trees: brackets match, and what stands
between two brackets is one tree. Every token knows where it begins, and a
group also where it is closed, since that is the place of whatever is
missing at its end.

Trees can be written out again. Two tokens are separated by a space unless
the first is a punctuation character joined to the next; parentheses and
brackets hug their content, and braces are set off by spaces.
-/

namespace Rowsmith.Source

/-- A place in a source text; lines, and characters within a line, are
counted from one. -/
structure Position where
  line : Nat
  column : Nat
deriving DecidableEq, Repr, Inhabited

namespace Position

/-- The place of the first character. -/
def start : Position := ⟨1, 1⟩

/-- The place after one character. Only a line feed ends a line. -/
def next (p : Position) (c : Char) : Position :=
  if c == '\n' then ⟨p.line + 1, 1⟩ else ⟨p.line, p.column + 1⟩

/-- The place after several characters. -/
def advance (p : Position) (chars : List Char) : Position := chars.foldl next p

def text (p : Position) : String := toString p.line ++ ":" ++ toString p.column

end Position

/-- The brackets that enclose a group. -/
inductive Delimiter
  | parenthesis
  | bracket
  | brace
deriving DecidableEq, Repr

namespace Delimiter

def opening : Delimiter → Char
  | .parenthesis => '('
  | .bracket => '['
  | .brace => '\x7b'

def closing : Delimiter → Char
  | .parenthesis => ')'
  | .bracket => ']'
  | .brace => '\x7d'

/-- How a message calls the brackets. -/
def name : Delimiter → String
  | .parenthesis => "parentheses"
  | .bracket => "square brackets"
  | .brace => "curly braces"

end Delimiter

/-- A token, or a group of tokens in brackets. -/
inductive TokenTree
  -- An identifier or keyword, with the marker of a raw one.
  | word (pos : Position) (text : String)
  -- A lifetime, without its apostrophe.
  | lifetime (pos : Position) (name : String)
  -- A punctuation character, which may be joined to the next.
  | punct (pos : Position) (char : Char) (joint : Bool)
  -- A literal as it is written.
  | literal (pos : Position) (text : String)
  -- A group, with the places of its two brackets.
  | group (pos closed : Position) (delimiter : Delimiter) (content : List TokenTree)
deriving Repr, Inhabited

namespace TokenTree

def pos : TokenTree → Position
  | .word pos _ => pos
  | .lifetime pos _ => pos
  | .punct pos _ _ => pos
  | .literal pos _ => pos
  | .group pos _ _ _ => pos

/-- The next token follows without a space. -/
def isJoint : TokenTree → Bool
  | .punct _ _ joint => joint
  | _ => false

mutual

def render : TokenTree → String
  | .word _ text => text
  | .lifetime _ name => "'" ++ name
  | .punct _ char _ => String.ofList [char]
  | .literal _ text => text
  | .group _ _ .parenthesis content => "(" ++ renderAll content ++ ")"
  | .group _ _ .bracket content => "[" ++ renderAll content ++ "]"
  | .group _ _ .brace [] => "\x7b \x7d"
  | .group _ _ .brace (token :: content) => "\x7b " ++ render token ++ renderMore token.isJoint content ++ " \x7d"

def renderAll : List TokenTree → String
  | [] => ""
  | token :: rest => render token ++ renderMore token.isJoint rest

/-- Further tokens as text, after one that was or was not joint. -/
def renderMore (joint : Bool) : List TokenTree → String
  | [] => ""
  | token :: rest =>
    (if joint then "" else " ") ++ render token ++ renderMore token.isJoint rest

end

end TokenTree

end Rowsmith.Source

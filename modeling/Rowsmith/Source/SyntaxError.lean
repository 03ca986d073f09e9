/-
What can be wrong with a source text: where, and what was expected there
instead.
-/
import Rowsmith.Source.Token

namespace Rowsmith.Source

/-- Why a text is refused. -/
inductive SyntaxCause
  -- One of several things was expected. The second field says whether
  -- there was nothing left, and that this is worth saying.
  | expected (what : List String) (atEnd : Bool)
  -- An identifier was expected, not this keyword.
  | reserved (keyword : String)
  -- A group has more in it than it may have.
  | leftover (delimiter : Option Delimiter)
  -- An attribute has no arguments.
  | argumentsMissing (name : String)
  -- The arguments of an attribute are not in parentheses.
  | argumentsBare (name : String)
  -- An argument may be given only once.
  | duplicate (argument : String)
  -- A storage name that does not exist.
  | unknownStorage (name : String)
  -- An argument is given without the one it needs.
  | requires (argument other : String)
  -- A model has type parameters.
  | genericModel
  -- A model has no named fields.
  | unnamedFields
  -- Any other breach of the grammar.
  | misplaced (what : String)
deriving DecidableEq, Repr

/-- What was expected, as a message. -/
def expectation : List String → Option String
  | [] => none
  | [a] => some ("expected " ++ a)
  | [a, b] => some ("expected " ++ a ++ " or " ++ b)
  | what => some ("expected one of: " ++ String.intercalate ", " what)

def SyntaxCause.message : SyntaxCause → String
  | .expected what atEnd =>
    match expectation what, atEnd with
    | some text, true => "unexpected end of input, " ++ text
    | some text, false => text
    | none, true => "unexpected end of input"
    | none, false => "unexpected token"
  | .reserved keyword => "expected identifier, found keyword `" ++ keyword ++ "`"
  | .leftover (some delimiter) =>
    "unexpected token, expected `" ++ String.ofList [delimiter.closing] ++ "`"
  | .leftover none => "unexpected token"
  | .argumentsMissing name =>
    "expected attribute arguments in parentheses: #[" ++ name ++ "(...)]"
  | .argumentsBare name => "expected parentheses: #[" ++ name ++ "(...)]"
  | .duplicate argument => "duplicate `" ++ argument ++ "` attribute"
  | .unknownStorage name => "unknown storage type `" ++ name ++ "`"
  | .requires argument other => "`" ++ argument ++ "` requires `" ++ other ++ "`"
  | .genericModel => "model structs cannot be generic"
  | .unnamedFields => "model structs must have named fields"
  | .misplaced what => what

/-- A refusal and its place. -/
structure SyntaxError where
  pos : Position
  cause : SyntaxCause
deriving DecidableEq, Repr

/-- A refusal in a file as a message. -/
def SyntaxError.text (e : SyntaxError) (path : String) : String :=
  path ++ ":" ++ e.pos.text ++ ": " ++ e.cause.message

end Rowsmith.Source

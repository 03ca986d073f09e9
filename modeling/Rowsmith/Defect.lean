/-
Defects: the ways in which a value that was accepted cannot be written
out. They are kept apart from failures, which reject an input with an
explanation; a defect says that an emission was asked for that no text
can satisfy, and it ends the emission at once.

A defect has a message, except for the one that arises when a reader is
asked to stop inside a character.
-/
import Rowsmith.Text.Quoted

namespace Rowsmith

/-- Why an emission cannot be carried out. -/
inductive Defect
  -- A text meant to be one line holds a line break.
  | lineBreak (line : String)
  -- A field meant to have one column has another number of them.
  | severalColumns (field : String) (count : Nat)
  -- A table referenced by its key has none.
  | keyless (table : String)
  -- A schema has no table at a position.
  | noTable (count position : Nat)
  -- An update would set nothing.
  | nothingSet (table : String)
  -- A blank of several bytes was to be skipped one byte at a time.
  | splitCharacter
deriving DecidableEq, Repr, Inhabited

/-- The message of a defect, if it has one. -/
def Defect.message : Defect → Option String
  | .lineBreak line => some ("line is not a single line: " ++ Text.quoted line)
  | .severalColumns field count =>
    some ("field `" ++ field ++ "` spans " ++ toString count ++ " columns")
  | .keyless table => some ("table `" ++ table ++ "` has no primary key")
  | .noTable count position =>
    some ("index out of bounds: the len is " ++ toString count ++ " but the index is " ++
      toString position)
  | .nothingSet table => some ("update of `" ++ table ++ "` sets no columns")
  | .splitCharacter => none

end Rowsmith

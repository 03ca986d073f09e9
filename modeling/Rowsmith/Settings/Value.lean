/-
The tree of a settings text, and how it grows. A settings text is a
sequence of pairs of keys and values, some of them below headings; the
keys and headings may lead through several tables, which come to be on the
way.

Nothing is defined twice. A table knows how it came to be, because that
decides who may add to it: a table between braces is complete; a table
with a heading of its own takes the pairs below that heading, and no
dotted key from elsewhere; a table that was only passed through may still
get its heading.

Entries keep the order in which they came to be. A table that gets its
heading after it was passed through moves to the end.
-/
import Rowsmith.Assoc
import Rowsmith.Decimal.Binary

namespace Rowsmith.Settings

/-- How a table came to be. -/
inductive Origin
  -- By a heading of its own, or as the text as a whole.
  | heading
  -- By being on the way of a heading.
  | passed
  -- By being on the way of a dotted key.
  | dotted
  -- Between braces.
  | braces
deriving DecidableEq, Repr

/-- A value. -/
inductive Value
  | text (s : String)
  | whole (n : Int)
  | real (n : Decimal.Binary)
  | truth (b : Bool)
  -- A date, a time of day or both, which no setting asks for.
  | moment
  -- A list between brackets.
  | list (items : List Value)
  -- A list of tables, each with a heading.
  | tables (items : List Value)
  | table (origin : Origin) (entries : List (String × Value))
deriving Repr

/-- The entries of a table, in the order in which they came to be. -/
abbrev Entries := List (String × Value)

def Value.items? : Value → Option (List Value)
  | .list items | .tables items => some items
  | _ => none

-- ============================================================== reaching

/-- What is done to the entries of a table of a given origin. It is
refused if it would define something twice. -/
abbrev Change := Origin → Entries → Option Entries

/-- Makes a change in the table that keys lead to, through tables that are
created where they are missing. A list of tables is entered at its last
one. Dotted keys do not enter a table with a heading of its own. -/
def reach (isDotted : Bool) (change : Change) : List String → Change
  | [], origin, entries => change origin entries
  | key :: path, _, entries =>
    match findAssoc? entries key with
    | none => do
      let origin := if isDotted then .dotted else .passed
      return putAssoc entries key (.table origin (← reach isDotted change path origin []))
    | some (.table origin inner) =>
      if origin = .braces ∨ (isDotted ∧ origin = .heading) then none
      else do
        return putAssoc entries key (.table origin (← reach isDotted change path origin inner))
    | some (.tables items) =>
      match items.getLast? with
      | some (.table origin inner) => do
        let last := .table origin (← reach isDotted change path origin inner)
        return putAssoc entries key (.tables (items.dropLast ++ [last]))
      | _ => none
    | some _ => none

-- ================================================================= pairs

/-- A value under a key of one or more parts. -/
structure Pair where
  path : List String
  key : String
  value : Value
deriving Repr

/-- Adds the value at the end of the key. A dotted key adds to tables only
that dotted keys created. -/
def Pair.put (p : Pair) : Change := fun origin entries =>
  reach true (fun reached inner =>
    if p.path ≠ [] ∧ reached ≠ .dotted then none
    else if (findAssoc? inner p.key).isSome then none
    else some (inner ++ [(p.key, p.value)])) p.path origin entries

def putPairs (pairs : List Pair) (entries : Entries) : Option Entries :=
  pairs.foldlM (fun entries p => p.put .heading entries) entries

/-- The table of the pairs between braces. -/
def Value.ofPairs? (pairs : List Pair) : Option Value :=
  (putPairs pairs []).map (.table .braces)

-- ============================================================== sections

/-- What begins a section of a text. -/
inductive Heading
  -- The beginning of the text.
  | top
  -- The heading of a table.
  | table (path : List String) (key : String)
  -- The heading of one more table of a list.
  | item (path : List String) (key : String)
deriving Repr

/-- A heading and the pairs below it. -/
structure Section where
  heading : Heading
  pairs : List Pair
deriving Repr

/-- Adds a section to what stands before it. -/
def Section.put (s : Section) (entries : Entries) : Option Entries :=
  match s.heading with
  | .top => putPairs s.pairs entries
  | .table path key =>
    reach false (fun _ inner =>
      match findAssoc? inner key with
      | none => do return inner ++ [(key, .table .heading (← putPairs s.pairs []))]
      | some (.table .passed begun) => do
        let rest := inner.filter fun entry => entry.1 != key
        return rest ++ [(key, .table .heading (← putPairs s.pairs begun))]
      | some _ => none) path .heading entries
  | .item path key =>
    reach false (fun _ inner =>
      match (findAssoc? inner key).getD (.tables []) with
      | .tables items => do
        let item := .table .heading (← putPairs s.pairs [])
        return putAssoc inner key (.tables (items ++ [item]))
      | _ => none) path .heading entries

def Value.ofSections? (sections : List Section) : Option Value :=
  (sections.foldlM (fun entries (s : Section) => s.put entries) []).map (.table .heading)

end Rowsmith.Settings

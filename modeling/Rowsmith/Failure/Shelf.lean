/-
A shelf of failures: a pile of failure values some of which are held in
common. Copying a value does not copy its links; both copies hold the
same ones.

The links are kept in a list and refer to one another by position. When a
value is made a context, its outermost link is given a cause where it
stands, so that whoever else holds this link would see the change. That is
done only to a link that nobody else holds; links that are no longer held
by any value of the pile do not count as holders. Otherwise a new link is
entered that stands for the failure.
-/
import Rowsmith.Failure

namespace Rowsmith.Failure

/-- A link on a shelf. It refers to others by their positions. -/
inductive Entry
  -- It reports something itself, and may have a cause.
  | link (report : Report) (cause : Option Nat)
  -- It stands for a failure that was taken over whole.
  | taken (outer cause : Nat)
deriving DecidableEq, Repr

namespace Entry

def cause? : Entry → Option Nat
  | .link _ cause => cause
  | .taken _ cause => some cause

/-- The positions an entry refers to. -/
def references : Entry → List Nat
  | .link _ cause => cause.toList
  | .taken outer cause => [outer, cause]

/-- The failure whose outermost link this is, if the failures it refers to
can be read. -/
def readWith (read : Nat → Option Failure) : Entry → Option Failure
  | .link report none => some (.link report none)
  | .link report (some cause) => do return .link report (some (← read cause))
  | .taken outer cause => do return .taken (← read outer) (some (← read cause))

end Entry

/-- All links entered so far, and the pile of values, top first. -/
structure Shelf where
  entries : List Entry
  pile : List Nat
deriving DecidableEq, Repr

namespace Shelf

def empty : Shelf := ⟨[], []⟩

-- =============================================================== reading

/-- A bound for the length of chains of references. A link is entered once
and is given a cause once at most, and nothing else makes a chain
longer. -/
def depth (entries : List Entry) : Nat :=
  entries.length + entries.countP fun entry => entry.cause?.isSome

/-- Reads the failure at a position; the first number bounds the length
of the chains. -/
def readAt (entries : List Entry) : Nat → Nat → Option Failure
  | 0, _ => none
  | bound + 1, position => do (← entries[position]?).readWith (readAt entries bound)

/-- The failure at a position. -/
def read (s : Shelf) (position : Nat) : Option Failure :=
  readAt s.entries (depth s.entries) position

/-- The failure on top of the pile. -/
def top (s : Shelf) : Option Failure :=
  s.pile.head?.bind s.read

-- =============================================================== holding

/-- The positions that the link at a position refers to. -/
def referencesAt (entries : List Entry) (position : Nat) : List Nat :=
  (entries[position]?.map Entry.references).getD []

/-- The link at `target` is found by following references from a position,
fewer than the given number of them. -/
def reaches (entries : List Entry) (target : Nat) : Nat → Nat → Bool
  | 0, _ => false
  | bound + 1, position =>
    position == target || (referencesAt entries position).any (reaches entries target bound)

/-- One of some values holds the link at a position, as its own or further
down. -/
def isHeld (s : Shelf) (values : List Nat) (position : Nat) : Bool :=
  values.any (reaches s.entries position (depth s.entries))

-- ============================================================ operations

/-- Enters a link and puts it on the pile. -/
def push (s : Shelf) (entry : Entry) : Shelf :=
  ⟨s.entries ++ [entry], s.entries.length :: s.pile⟩

/-- Puts a new value of one link on the pile. -/
def pushReport (s : Shelf) (report : Report) : Shelf :=
  s.push (.link report none)

/-- Takes the two topmost values off the pile and puts the lower one back
with the upper one as its context. -/
def context (s : Shelf) : Shelf :=
  match s.pile with
  | outer :: inner :: rest =>
    match s.entries[outer]?, s.isHeld (inner :: rest) outer with
    | some (.link report none), false =>
      ⟨s.entries.set outer (.link report (some inner)), outer :: rest⟩
    | _, _ => push ⟨s.entries, rest⟩ (.taken outer inner)
  | _ => s

/-- Puts a copy of a value on the pile; the top is at depth zero. -/
def copy (s : Shelf) (depth : Nat) : Shelf :=
  match s.pile[depth]? with
  | some position => { s with pile := position :: s.pile }
  | none => s

/-- Exchanges the two topmost values. -/
def swap (s : Shelf) : Shelf :=
  match s.pile with
  | a :: b :: rest => { s with pile := b :: a :: rest }
  | _ => s

/-- Takes the top value off the pile. -/
def pop (s : Shelf) : Shelf := { s with pile := s.pile.drop 1 }

/-- The position of the last link of a chain. -/
def rootAt (entries : List Entry) : Nat → Nat → Nat
  | 0, position => position
  | bound + 1, position =>
    match (entries[position]?).bind Entry.cause? with
    | some cause => rootAt entries bound cause
    | none => position

/-- The position of the root of the failure at a position. -/
def rootOf (s : Shelf) (position : Nat) : Nat :=
  rootAt s.entries (depth s.entries) position

/-- Puts a copy of the root of the top value on the pile. -/
def root (s : Shelf) : Shelf :=
  match s.pile with
  | top :: rest => { s with pile := s.rootOf top :: top :: rest }
  | [] => s

end Shelf

end Rowsmith.Failure

/-
Following references: which columns are read for a table under a follow
policy, and through which joins.

Following all references from a table that reaches a cycle of references
would never end, so there the deepest policy gives way to following one
level; `effective` is the policy that is really applied. It is asked
again at every table that is joined, by the columns, by the joins and by
the counts alike, which is what keeps the three in step.

Whether a cycle is reached is found by a search that marks the tables it
comes to, and goes on from each of them once.

Main definitions: `reachesCycle`, `effective`, `columnCount`, and the
walk from which `selectColumns` and `joins` are taken.
-/
import Rowsmith.Schema
import Rowsmith.FollowPolicy

namespace Rowsmith

-- =============================================================== cycles

/-- How far the search for a cycle has come with a table. -/
inductive Mark
  -- The search has not come to it yet.
  | unseen
  -- It is on the way from where the search began to where it is now.
  | active
  -- All that it refers to was looked at.
  | done
deriving DecidableEq, Repr

namespace Schema

/-- Searches for a cycle along the references of a table, depth first, given
how far the search has come with each table so far. The search ends early at
a table that is met again on the way to it; otherwise it goes on with the
marks it leaves. The first number bounds the tables on the way. -/
def searchWithin (s : Schema) : Nat → List Mark → TableId → Except TableId (List Mark)
  | 0, marks, _ => .ok marks
  | bound + 1, marks, id =>
    match marks[id]? with
    | some .active => .error id
    | some .unseen => do
      let marks ← (s.successors id).foldlM (s.searchWithin bound) (marks.set id .active)
      return marks.set id .done
    | some .done | none => .ok marks

/-- A cycle of references can be reached from a table. The tables on the way
are marked and so never repeat, and the bound is not reached. -/
def reachesCycle (s : Schema) (id : TableId) : Bool :=
  match s.searchWithin (s.tables.length + 1) (List.replicate s.tables.length .unseen) id with
  | .ok _ => false
  | .error _ => true

/-- The policy applied to a table for which a policy is asked. -/
def effective (s : Schema) (id : TableId) (policy : FollowPolicy) : FollowPolicy :=
  if policy = .all ∧ s.reachesCycle id then .oneLevel else policy

-- =============================================================== counts

/-- The number of columns read for a table; the first number bounds the
length of the chains of joins. -/
def columnCountWithin (s : Schema) : Nat → TableId → FollowPolicy → Nat
  | 0, _, _ => 0
  | bound + 1, id, policy =>
    match s.tables[id]? with
    | none => 0
    | some t =>
      total (t.fields.map fun f =>
        match f.reference? with
        | some r =>
          if (s.effective id policy).follows then
            1 + s.columnCountWithin bound r.table (s.effective id policy).next
          else f.columnCount
        | none => f.columnCount)

/-- A bound on the tables in a chain of joins: no table repeats under the
deepest policy, and the others join once. -/
def chainBound (s : Schema) : Nat := s.tables.length + 2

/-- The number of columns read for a table under a policy. -/
def columnCount (s : Schema) (id : TableId) (policy : FollowPolicy) : Nat :=
  s.columnCountWithin s.chainBound id policy

/-- The number of columns read for a field under a policy, those of a
joined table included. -/
def fieldColumnCount (s : Schema) (f : TableField) (policy : FollowPolicy) : Nat :=
  match f.reference? with
  | some r => if policy.follows then 1 + s.columnCount r.table policy.next else f.columnCount
  | none => f.columnCount

end Schema

-- ================================================================ joins

/-- A left join by which a reference is followed. -/
structure Join where
  -- The table that holds the reference.
  source : Table
  -- How that table is named in the statement.
  sourceName : String
  -- The column of the reference.
  column : Column
  -- The referenced table.
  target : Table
  -- Its primary key column.
  targetColumn : Column
  -- Its alias, if its own name is already taken in the statement.
  rename : Option String
deriving Repr

namespace Join

/-- How the joined table is named in the statement. -/
def targetName (j : Join) : String := j.rename.getD j.target.name

/-- The column of the reference, qualified. -/
def sourceRef (j : Join) : ColumnRef := j.column.qualified j.sourceName

/-- The referenced column, qualified. -/
def targetRef (j : Join) : ColumnRef := j.targetColumn.qualified j.targetName

end Join

/-- What a walk along the references of a table has collected. -/
structure Walk where
  columns : List ColumnRef
  joins : List Join
  -- How often each table name was brought into the statement.
  uses : List (String × Nat)
deriving Repr

namespace Walk

def usesOf (w : Walk) (name : String) : Nat := (findAssoc? w.uses name).getD 0

/-- The alias of the table that is brought in as the `n`-th of its
name. -/
def aliasFor (name : String) (n : Nat) : Option String :=
  if n > 1 then some (name ++ "_" ++ toString n) else none

end Walk

namespace Schema

/-- Collects the columns of a field and, if it is a reference that is
followed, the join and what `visit` collects behind it. -/
def visitField (s : Schema) (visit : Table → String → FollowPolicy → Walk → Except Defect Walk)
    (t : Table) (name : String) (policy : FollowPolicy) (w : Walk) (f : TableField) :
    Except Defect Walk :=
  let w := { w with columns := w.columns ++ f.columns.map fun c => c.qualified name }
  match f.reference? with
  | some r =>
    if policy.follows then do
      let target ← s.table r.table
      let n := w.usesOf target.name + 1
      let column ← f.column
      let targetColumn ← s.keyColumn r
      let join : Join := {
        source := t
        sourceName := name
        column := column
        target := target
        targetColumn := targetColumn
        rename := Walk.aliasFor target.name n }
      visit target join.targetName policy.next
        { w with joins := w.joins ++ [join], uses := putAssoc w.uses target.name n }
    else .ok w
  | none => .ok w

/-- Collects the columns and joins of a table that goes by `name`. The
first number bounds the length of the chains of joins. -/
def visitTable (s : Schema) : Nat → Table → String → FollowPolicy → Walk → Except Defect Walk
  | 0, _, _, _, w => .ok w
  | bound + 1, t, name, policy, w =>
    t.fields.foldlM (s.visitField (s.visitTable bound) t name (s.effective t.id policy)) w

/-- The walk from a table, whose own name is in use from the start. -/
def walk (s : Schema) (t : Table) (policy : FollowPolicy) : Except Defect Walk :=
  s.visitTable s.chainBound t t.name policy ⟨[], [], [(t.name, 1)]⟩

/-- The columns read for a table, in row order. When nothing is joined
they go by their bare names; otherwise every column is qualified, and
each followed reference is directly followed by the columns of the table
it refers to. -/
def selectColumns (s : Schema) (t : Table) (policy : FollowPolicy) :
    Except Defect (List ColumnRef) :=
  if (s.effective t.id policy).follows then do return (← s.walk t policy).columns
  else .ok (t.columns.map Column.bare)

/-- The joins of a table, in column order. -/
def joins (s : Schema) (t : Table) (policy : FollowPolicy) : Except Defect (List Join) := do
  return (← s.walk t policy).joins

end Schema

end Rowsmith

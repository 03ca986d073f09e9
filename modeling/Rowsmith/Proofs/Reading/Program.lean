/-
Reading a row as a program. The function that turns a row into a model
calls getters, each of which reads the next column, and for a reference
that is followed it calls the function of the referenced table. Here the
plans from which these functions are written are given their meaning.

# What is modelled

A row matters to the functions only in so far as they branch on it: they
ask whether columns are null, and whether the key of a reference is zero
(`Row`). `Reads` says which getters a plan calls on a row, at which
columns, whether everything was read as present, and at which column it
stops. A call of the function of another table is a reading by the plan of
that table, under the policy the arm of the caller names. Readings that a
getter or a conversion ends early are not described.
-/
import Rowsmith.Emit.Plan

namespace Rowsmith.Emit

-- ================================================================= rows

/-- What a row shows to the functions that read it: which of its columns
are null, and which hold a zero. -/
structure Row where
  null : Nat → Bool
  zero : Nat → Bool

/-- Every value of a row is present: no column is null, and none holds a
zero that could stand for an absent reference. -/
def Row.Full (row : Row) : Prop := ∀ i, row.null i = false ∧ row.zero i = false

/-- A getter that was called, and the column it read. -/
abbrev Fetch := Getter × Nat

-- ================================================================ plans

/-- The getter for the key of a reference. -/
def ReferenceRead.getter (read : ReferenceRead) : Getter := ⟨read.target.key, read.nullable⟩

/-- What is read of a reference under a policy. -/
def ReferenceRead.arm? (read : ReferenceRead) (policy : FollowPolicy) : Option ReferenceArm :=
  read.arms.find? fun arm => arm.policy = policy

/-- A reference whose key stands at a column is absent when it may be and
the key is null, or zero if it is an integer. -/
def ReferenceRead.isAbsent (read : ReferenceRead) (row : Row) (i : Nat) : Bool :=
  read.nullable && (row.null i || (read.target.key.isInteger && row.zero i))

namespace FieldRead

/-- The getters for the columns of the field itself. -/
def getters : FieldRead → List Getter
  | .column getter => [getter]
  | .converted getter _ => [getter]
  | .assembled _ getters _ => getters
  | .reference read => [read.getter]

/-- How the field is read, if it is a reference. -/
def reference? : FieldRead → Option ReferenceRead
  | .reference read => some read
  | _ => none

/-- A value whose first column is given is absent: one that is assembled
is when it may be and all its columns are null. Null values of single
columns are read like any other. -/
def isAbsent (row : Row) (start : Nat) : FieldRead → Bool
  | .column _ => false
  | .converted _ _ => false
  | .assembled _ getters optional =>
    optional && (List.range getters.length).all fun i => row.null (start + i)
  | .reference read => read.isAbsent row start

/-- How many columns the code passes over when the value is absent. Only a
value that is assembled is passed over, and a reference by its arm. -/
def skip : FieldRead → Nat
  | .column _ => 0
  | .converted _ _ => 0
  | .assembled _ getters _ => getters.length
  | .reference _ => 0

end FieldRead

/-- How the fields of a table are read, in order. -/
def readPlan (s : Schema) (t : Table) : Except Defect (List FieldRead) :=
  t.fields.mapM (fieldRead s t.id)

-- ============================================================= readings

/-- The reading of fields under a policy from a column on: which getters
were called at which columns, whether all values were present, and the
column after the last. -/
inductive Reads (s : Schema) (row : Row) :
    FollowPolicy → List FieldRead → Nat → List Fetch → Bool → Nat → Prop
  -- There is nothing left to read.
  | done {policy : FollowPolicy} {start : Nat} : Reads s row policy [] start [] true start
  -- A value is read by all its getters.
  | value {policy : FollowPolicy} {read : FieldRead} {rest : List FieldRead} {start stop : Nat}
      {fetches : List Fetch} {whole : Bool} (plain : read.reference? = none)
      (present : read.isAbsent row start = false)
      (next : Reads s row policy rest (start + read.getters.length) fetches whole stop) :
      Reads s row policy (read :: rest) start (read.getters.zipIdx start ++ fetches) whole stop
  -- A value that is absent is not read, and what the code says is skipped.
  | skipped {policy : FollowPolicy} {read : FieldRead} {rest : List FieldRead} {start stop : Nat}
      {fetches : List Fetch} {whole : Bool} (plain : read.reference? = none)
      (absent : read.isAbsent row start = true)
      (next : Reads s row policy rest (start + read.skip) fetches whole stop) :
      Reads s row policy (read :: rest) start fetches false stop
  -- A reference that is not followed is read by its key.
  | key {policy : FollowPolicy} {read : ReferenceRead} {arm : ReferenceArm}
      {rest : List FieldRead} {start stop : Nat} {fetches : List Fetch} {whole : Bool}
      (chosen : read.arm? policy = some arm) (shallow : arm.entity = none)
      (present : read.isAbsent row start = false)
      (next : Reads s row policy rest (start + 1) fetches whole stop) :
      Reads s row policy (.reference read :: rest) start ((read.getter, start) :: fetches) whole
        stop
  -- A reference that is followed is read by its key, and then by the
  -- function of the referenced table.
  | entity {policy called : FollowPolicy} {read : ReferenceRead} {arm : ReferenceArm}
      {target : Table} {plan rest : List FieldRead} {start middle stop : Nat}
      {inner fetches : List Fetch} {innerWhole whole : Bool}
      (chosen : read.arm? policy = some arm) (deep : arm.entity = some called)
      (present : read.isAbsent row start = false)
      (found : s.tables[read.target.table]? = some target)
      (planned : readPlan s target = .ok plan)
      (call : Reads s row called plan (start + 1) inner innerWhole middle)
      (next : Reads s row policy rest middle fetches whole stop) :
      Reads s row policy (.reference read :: rest) start
        ((read.getter, start) :: (inner ++ fetches)) (innerWhole && whole) stop
  -- The key of a reference that is absent is read, and what the arm says
  -- is skipped.
  | absent {policy : FollowPolicy} {read : ReferenceRead} {arm : ReferenceArm}
      {rest : List FieldRead} {start stop : Nat} {fetches : List Fetch} {whole : Bool}
      (chosen : read.arm? policy = some arm) (absent : read.isAbsent row start = true)
      (next : Reads s row policy rest (start + 1 + arm.skip) fetches whole stop) :
      Reads s row policy (.reference read :: rest) start ((read.getter, start) :: fetches) false
        stop

/-- A row is read in one way only. -/
theorem Reads.unique {s : Schema} {row : Row} {policy : FollowPolicy} {plan : List FieldRead}
    {start stop stop' : Nat} {fetches fetches' : List Fetch} {whole whole' : Bool}
    (h : Reads s row policy plan start fetches whole stop)
    (h' : Reads s row policy plan start fetches' whole' stop') :
    fetches' = fetches ∧ whole' = whole ∧ stop' = stop := by
  -- what is read first decides which constructor made the second reading
  induction h generalizing fetches' whole' stop' with
  | done =>
      cases h'
      exact ⟨rfl, rfl, rfl⟩
  | value plain present _ ih =>
      cases h' with
      | value _ _ next' =>
          obtain ⟨rfl, rfl, rfl⟩ := ih next'
          exact ⟨rfl, rfl, rfl⟩
      | skipped _ absent => rw [present] at absent; cases absent
      | key | entity | absent => cases plain
  | skipped plain absent _ ih =>
      cases h' with
      | skipped _ _ next' =>
          obtain ⟨rfl, -, rfl⟩ := ih next'
          exact ⟨rfl, rfl, rfl⟩
      | value _ present => rw [absent] at present; cases present
      | key | entity | absent => cases plain
  | key chosen shallow present _ ih =>
      cases h' with
      | key _ _ _ next' =>
          obtain ⟨rfl, rfl, rfl⟩ := ih next'
          exact ⟨rfl, rfl, rfl⟩
      | entity chosen' deep =>
          obtain rfl := Option.some.inj (chosen.symm.trans chosen')
          cases shallow.symm.trans deep
      | absent _ absent => rw [present] at absent; cases absent
      | value plain | skipped plain => cases plain
  | entity chosen deep present found planned _ _ ihCall ih =>
      cases h' with
      | entity chosen' deep' _ found' planned' call' next' =>
          obtain rfl := Option.some.inj (chosen.symm.trans chosen')
          obtain rfl := Option.some.inj (deep.symm.trans deep')
          obtain rfl := Option.some.inj (found.symm.trans found')
          obtain rfl := Except.ok.inj (planned.symm.trans planned')
          obtain ⟨rfl, rfl, rfl⟩ := ihCall call'
          obtain ⟨rfl, rfl, rfl⟩ := ih next'
          exact ⟨rfl, rfl, rfl⟩
      | key chosen' shallow =>
          obtain rfl := Option.some.inj (chosen.symm.trans chosen')
          cases shallow.symm.trans deep
      | absent _ absent => rw [present] at absent; cases absent
      | value plain | skipped plain => cases plain
  | absent chosen absent _ ih =>
      cases h' with
      | absent chosen' _ next' =>
          obtain rfl := Option.some.inj (chosen.symm.trans chosen')
          obtain ⟨rfl, -, rfl⟩ := ih next'
          exact ⟨rfl, rfl, rfl⟩
      | key _ _ present | entity _ _ present => rw [absent] at present; cases present
      | value plain | skipped plain => cases plain

end Rowsmith.Emit

/-
Follow policies: how far the references of a row are expanded when the
row is read. A policy says what to do at the table it is applied to, and
`next` which policy applies to the tables joined there.
-/

namespace Rowsmith

/-- How deeply references are expanded. -/
inductive FollowPolicy
  -- Only the key is read.
  | keys
  -- Referenced tables are joined, and of their references only the key
  -- is read.
  | oneLevel
  -- Referenced tables are joined down to the leaves.
  | all
deriving DecidableEq, Repr

namespace FollowPolicy

/-- The three policies, from shallow to deep. -/
def policies : List FollowPolicy := [.keys, .oneLevel, .all]

/-- The policy applied to a table reached through one join. -/
def next : FollowPolicy → FollowPolicy
  | .keys | .oneLevel => .keys
  | .all => .all

/-- The policy joins referenced tables. -/
def follows : FollowPolicy → Bool
  | .keys => false
  | .oneLevel | .all => true

/-- The name of a policy in generated code. -/
def variantName : FollowPolicy → String
  | .keys => "NoFollow"
  | .oneLevel => "FollowOneLevel"
  | .all => "FollowAll"

end FollowPolicy

end Rowsmith

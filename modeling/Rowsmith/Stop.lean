/-
How a run ends early: with a failure, which rejects the input with an
explanation, or with a defect, which says that the input was accepted but
cannot be carried through.
-/
import Rowsmith.Defect
import Rowsmith.Failure

namespace Rowsmith

/-- The early end of a run. -/
inductive Stop
  | failure (e : Failure)
  | defect (d : Defect)
deriving Repr

namespace Stop

def ofFailure {α : Type} (step : Except Failure α) : Except Stop α := step.mapError .failure

/-- A step that may run into a defect. -/
def ofDefect {α : Type} (step : Except Defect α) : Except Stop α := step.mapError .defect

end Stop

end Rowsmith

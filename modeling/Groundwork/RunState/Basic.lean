import Groundwork.Path

/-!
Which steps of a pipeline are done. A step is recorded when its checkpoint has succeeded, and never
twice.
-/

namespace Groundwork

/-- The steps of a pipeline that are done, in the order in which they were completed. -/
structure RunState where
  pipeline : String
  /-- The directory that the steps were applied to. -/
  workingDirectory : Path
  completed : List String := []
deriving Repr, DecidableEq

namespace RunState

def isCompleted (state : RunState) (step : String) : Bool := state.completed.contains step

/-- Records a step as done. -/
def markCompleted (state : RunState) (step : String) : RunState :=
  if state.isCompleted step then state
  else { state with completed := state.completed ++ [step] }

end RunState

end Groundwork

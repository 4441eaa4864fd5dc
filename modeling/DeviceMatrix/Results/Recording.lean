import DeviceMatrix.Results.Step

/-! A recorded execution: its record and all its steps. -/
namespace DeviceMatrix

/-- An execution as the service describes it. Only its outcome is interpreted. -/
structure Execution where
  id : Option String := none
  outcome : Option Outcome := none
  deriving DecidableEq, Repr

/-- The outcome of the execution; one without any says nothing. -/
def Execution.rollup (execution : Execution) : Outcome := execution.outcome.getD {}

structure Recording where
  execution : Execution := {}
  steps : List Step := []
  deriving DecidableEq, Repr

end DeviceMatrix

import DeviceMatrix.Results.Outcome

/-! Steps: one test run on one combination of device, system version, locale and orientation,
and the pages in which a service lists them. -/
namespace DeviceMatrix

/-- The counters of one test suite. A counter that is missing counts as zero. -/
structure SuiteOverview where
  name : Option String := none
  total : Option Int32 := none
  errors : Option Int32 := none
  failures : Option Int32 := none
  skipped : Option Int32 := none
  deriving DecidableEq, Repr

/-- The part of a step that holds its test suites. -/
structure TestExecution where
  overviews : List SuiteOverview
  deriving DecidableEq, Repr

structure Dimension where
  key : String
  value : String
  deriving DecidableEq, Repr

structure Step where
  id : Option String := none
  name : Option String := none
  outcome : Option Outcome := none
  execution : Option TestExecution := none
  dimensions : List Dimension := []
  deriving DecidableEq, Repr

/-- The value of a dimension. Of several entries for one key the last counts. -/
def Step.dimension? (step : Step) (key : String) : Option String :=
  (step.dimensions.reverse.find? (·.key = key)).map (·.value)

structure StepPage where
  steps : List Step
  /-- Asks for the page after this one; the last page has none. -/
  nextToken : Option String := none
  deriving DecidableEq, Repr

end DeviceMatrix

import DeviceMatrix.Results.Step
import DeviceMatrix.Text.Decimal

/-! What a step's outcome amounts to: a label, and a text of details. The text is the first
flag that is set in the record that belongs to the outcome; for failures without a flag, and
for successes, it is counted from the test suites. -/
namespace DeviceMatrix

inductive Label where
  | passed
  | failed
  | skipped
  | inconclusive
  | unknown
  deriving DecidableEq, Repr

def Label.name : Label → String
  | passed => "Passed"
  | failed => "Failed"
  | skipped => "Skipped"
  | inconclusive => "Inconclusive"
  | unknown => "Unknown"

/-- An outcome with the one detail record that belongs to it. -/
inductive Verdict where
  | success
  | failure (detail : Option FailureDetail)
  | inconclusive (detail : Option InconclusiveDetail)
  | skipped (detail : Option SkippedDetail)
  | unrecognized
  deriving DecidableEq, Repr

def Outcome.verdict (outcome : Outcome) : Verdict :=
  match outcome.summary with
  | some .success => .success
  | some .failure => .failure outcome.failure
  | some .inconclusive => .inconclusive outcome.inconclusive
  | some .skipped => .skipped outcome.skipped
  | some .unset | some (.unrecognized _) | none => .unrecognized

def FailureDetail.reason? (detail : FailureDetail) : Option String :=
  if detail.crashed then some "Application crashed"
  else if detail.timedOut then some "Test timed out"
  else if detail.notInstalled then some "App failed to install"
  else none

def InconclusiveDetail.reason? (detail : InconclusiveDetail) : Option String :=
  if detail.infrastructureFailure then some "Infrastructure failure"
  else if detail.abortedByUser then some "Test run aborted by user"
  else if detail.nativeCrash then some "A native process crashed on the device"
  else none

def SkippedDetail.reason? (detail : SkippedDetail) : Option String :=
  if detail.incompatibleDevice then some "Incompatible device/OS combination"
  else if detail.incompatibleArchitecture then
    some "App does not support the device architecture"
  else if detail.incompatibleAppVersion then some "App does not support the OS version"
  else none

/-- Counters summed over the test suites of a step. -/
structure SuiteCounts where
  total : Int64 := 0
  errors : Int64 := 0
  failures : Int64 := 0
  skipped : Int64 := 0
  deriving DecidableEq, Repr

namespace SuiteCounts

def count (counter : Option Int32) : Int64 := (counter.getD 0).toInt64

def add (counts : SuiteCounts) (overview : SuiteOverview) : SuiteCounts where
  total := counts.total + count overview.total
  errors := counts.errors + count overview.errors
  failures := counts.failures + count overview.failures
  skipped := counts.skipped + count overview.skipped

def sum (overviews : List SuiteOverview) : SuiteCounts := overviews.foldl add {}

def passed (counts : SuiteCounts) : Int64 :=
  counts.total - counts.errors - counts.failures - counts.skipped

end SuiteCounts

def suiteCounts (execution : Option TestExecution) : SuiteCounts :=
  .sum ((execution.map (·.overviews)).getD [])

def counted (n : Int64) (what : String) : String := Decimal.ofInt n.toInt ++ " " ++ what

/-- A part of the breakdown, which is left out unless it counts something. -/
def part (n : Int64) (what : String) : String := if n > 0 then ", " ++ counted n what else ""

def failureBreakdown (execution : Option TestExecution) : String :=
  if execution.isNone then "Unknown failure"
  else
    let counts := suiteCounts execution
    if counts.total = 0 then "Test failed to run"
    else counted counts.failures "test cases failed" ++ part counts.passed "passed" ++
      part counts.errors "errors" ++ part counts.skipped "skipped"

namespace Verdict

def label : Verdict → Label
  | success => .passed
  | failure _ => .failed
  | inconclusive _ => .inconclusive
  | skipped _ => .skipped
  | unrecognized => .unknown

def reason? : Verdict → Option String
  | failure detail => detail.bind (·.reason?)
  | inconclusive detail => detail.bind (·.reason?)
  | skipped detail => detail.bind (·.reason?)
  | success | unrecognized => none

/-- The details. Only successes and failures look at the test suites. -/
def details (verdict : Verdict) (execution : Option TestExecution) : String :=
  match verdict with
  | success =>
    let total := (suiteCounts execution).total
    if total > 0 then counted total "test cases passed" else "--"
  | failure _ => verdict.reason?.getD (failureBreakdown execution)
  | inconclusive _ | skipped _ => verdict.reason?.getD "Unknown reason"
  | unrecognized => "Unknown outcome"

end Verdict

/-- Label and details of a step, which are there exactly if it has an outcome. -/
def Step.classify (step : Step) : Option (Label × String) :=
  step.outcome.map fun outcome =>
    (outcome.verdict.label, outcome.verdict.details step.execution)

end DeviceMatrix

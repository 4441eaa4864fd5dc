/-! Outcomes as a results service reports them: a summary word, and for three of the words a
record of flags that says why. Any of the records may be there with any word. -/
namespace DeviceMatrix

inductive OutcomeSummary where
  | success
  | failure
  | inconclusive
  | skipped
  | unset
  /-- A word that a later service may use; it is kept as reported. -/
  | unrecognized (name : String)
  deriving DecidableEq, Repr

namespace OutcomeSummary

def ofName (name : String) : OutcomeSummary :=
  if name = "success" then success
  else if name = "failure" then failure
  else if name = "inconclusive" then inconclusive
  else if name = "skipped" then skipped
  else if name = "unset" then unset
  else unrecognized name

def name : OutcomeSummary → String
  | success => "success"
  | failure => "failure"
  | inconclusive => "inconclusive"
  | skipped => "skipped"
  | unset => "unset"
  | unrecognized name => name

/-- The exit code of a run that ends with this outcome. -/
def exitCode : OutcomeSummary → Nat
  | success | skipped => 0
  | failure => 1
  | inconclusive | unset | unrecognized _ => 2

theorem ofName_name (summary : OutcomeSummary) :
    ofName summary.name = match summary with
      | unrecognized name => ofName name
      | known => known := by
  cases summary with
  | unrecognized => rfl
  | _ => simp [ofName, name]

theorem name_ofName (word : String) : (ofName word).name = word := by
  unfold ofName
  repeat' split
  all_goals simp_all [name]

end OutcomeSummary

structure FailureDetail where
  crashed : Bool
  timedOut : Bool
  notInstalled : Bool
  deriving DecidableEq, Repr

structure InconclusiveDetail where
  infrastructureFailure : Bool
  abortedByUser : Bool
  nativeCrash : Bool
  deriving DecidableEq, Repr

structure SkippedDetail where
  incompatibleDevice : Bool
  incompatibleArchitecture : Bool
  incompatibleAppVersion : Bool
  deriving DecidableEq, Repr

structure Outcome where
  summary : Option OutcomeSummary := none
  failure : Option FailureDetail := none
  inconclusive : Option InconclusiveDetail := none
  skipped : Option SkippedDetail := none
  deriving DecidableEq, Repr

end DeviceMatrix

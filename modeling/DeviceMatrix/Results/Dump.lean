import DeviceMatrix.Results.Outcome
import DeviceMatrix.Text.Quoted

/-! Outcomes spelled out part by part, for the debug log. -/
namespace DeviceMatrix

def dumpRecord (name : String) (parts : List (String × String)) : String :=
  name ++ " \x7b " ++ ", ".intercalate (parts.map fun (key, value) => key ++ ": " ++ value) ++
    " \x7d"

def dumpOption {α : Type} (dump : α → String) : Option α → String
  | none => "None"
  | some content => "Some(" ++ dump content ++ ")"

def dumpFlag (value : Bool) : String := if value then "true" else "false"

def OutcomeSummary.dump : OutcomeSummary → String
  | success => "Success"
  | failure => "Failure"
  | inconclusive => "Inconclusive"
  | skipped => "Skipped"
  | unset => "Unset"
  | unrecognized name => "Unrecognized(" ++ Text.quoted name ++ ")"

def FailureDetail.dump (detail : FailureDetail) : String :=
  dumpRecord "FailureDetail" [("crashed", dumpFlag detail.crashed),
    ("timed_out", dumpFlag detail.timedOut), ("not_installed", dumpFlag detail.notInstalled)]

def InconclusiveDetail.dump (detail : InconclusiveDetail) : String :=
  dumpRecord "InconclusiveDetail"
    [("infrastructure_failure", dumpFlag detail.infrastructureFailure),
      ("aborted_by_user", dumpFlag detail.abortedByUser),
      ("native_crash", dumpFlag detail.nativeCrash)]

def SkippedDetail.dump (detail : SkippedDetail) : String :=
  dumpRecord "SkippedDetail" [("incompatible_device", dumpFlag detail.incompatibleDevice),
    ("incompatible_architecture", dumpFlag detail.incompatibleArchitecture),
    ("incompatible_app_version", dumpFlag detail.incompatibleAppVersion)]

def Outcome.dump (outcome : Outcome) : String :=
  dumpRecord "Outcome" [("summary", dumpOption (·.dump) outcome.summary),
    ("failure_detail", dumpOption (·.dump) outcome.failure),
    ("inconclusive_detail", dumpOption (·.dump) outcome.inconclusive),
    ("skipped_detail", dumpOption (·.dump) outcome.skipped)]

end DeviceMatrix

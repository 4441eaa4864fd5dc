import DeviceMatrix.Config.Load
import DeviceMatrix.Report.Write
import DeviceMatrix.Summary.Fetch

/-! Errors that end a run, each with what lies behind it, and how they are printed. -/
namespace DeviceMatrix.Cli

structure Failure where
  message : String
  /-- From the nearest cause to the farthest. -/
  causes : List String := []
  deriving DecidableEq, Repr

namespace Failure

def within (message : String) (failure : Failure) : Failure :=
  ⟨message, failure.message :: failure.causes⟩

def ofService (error : ServiceError) : Failure where
  message := error.message
  causes := match error with
    | .io message => [message]
    | _ => []

def ofSummary (error : SummaryError) : Failure :=
  match error.cause? with
  | some cause => (ofService cause).within error.message
  | none => ⟨error.message, []⟩

/-- What is wrong with a document is not spelled out here. -/
def ofConfig (error : ConfigError) : Failure where
  message := error.message
  causes := match error with
    | .unread _ error => [error.message]
    | .invalid _ _ => ["TOML parse error"]

def ofWrite (error : Report.WriteError) : Failure := ⟨error.message, [error.cause]⟩

def inline (failure : Failure) : String := ": ".intercalate (failure.message :: failure.causes)

/-- The number of a cause takes five columns. -/
def numbered (number : Nat) : String :=
  let digits := Decimal.digits number
  String.ofList (List.replicate (5 - digits.length) ' ' ++ digits) ++ ": "

def indented (label : String) (text : String) : List String :=
  match text.splitOn "\n" with
  | [] => [label]
  | first :: rest =>
    (label ++ first) :: rest.map (String.ofList (List.replicate label.length ' ') ++ ·)

/-- The lines of the causes. Only several causes are numbered. -/
def causeLines : List String → List String
  | [] => []
  | [cause] => "" :: "Caused by:" :: indented "    " cause
  | causes => "" :: "Caused by:" ::
    (causes.zipIdx.flatMap fun (cause, number) => indented (numbered number) cause)

def lines (failure : Failure) : List String :=
  ("Error: " ++ failure.message).splitOn "\n" ++ causeLines failure.causes

end Failure
end DeviceMatrix.Cli

import DeviceMatrix.Host.Basic
import DeviceMatrix.Results.Wire
import DeviceMatrix.Shell.Words
import DeviceMatrix.Source.Basic
import DeviceMatrix.Text.Blank
import DeviceMatrix.Text.Quoted

/-! A helper program as a step source. The helper is started anew for every request, with the
request as arguments behind its own, and answers in JSON on its standard output. A helper that
fails is quoted by its standard error. -/
namespace DeviceMatrix

structure Helper where
  command : String
  directory : Option String := none
  /-- In seconds. -/
  timeout : Nat := 60
  deriving DecidableEq, Repr

namespace Helper

/-- The words of the command; one with open quotes is a single word. -/
def words (helper : Helper) : List String :=
  (Shell.words? helper.command).getD [helper.command]

def handleArguments (handle : ExecutionHandle) : List String :=
  ["--project", handle.project, "--history", handle.history, "--execution", handle.execution]

def listArguments (handle : ExecutionHandle) (token : Option String) (pageSize : Nat) :
    List String :=
  "list-steps" :: handleArguments handle ++ ["--page-size", Decimal.ofNat pageSize] ++
    match token with
    | none => []
    | some token => ["--page-token", token]

def rollupArguments (handle : ExecutionHandle) : List String :=
  "get-execution" :: handleArguments handle

/-- What a helper that failed says about it, or how it ended if it says nothing. -/
def complaint (program : String) (exit : Host.Exit) (errors : List UInt8) : String :=
  match Text.trim (Text.Symbol.lossy (Text.decode errors)) with
  | [] => program ++ " exited with " ++ exit.describe
  | text => String.ofList text

/-- The answer that a run of the helper gives. Its standard error counts only if it failed, its
standard output only if it did not. -/
def judge {α : Type} (codec : Json.Codec α) (program : String) (timeout : Nat) :
    Host.RunResult → Except ServiceError α
  | .notStarted error => .error (.execFailed ("Failed to run " ++ program ++ ": " ++ error.message))
  | .timedOut =>
    .error (.timeout (program ++ " did not answer within " ++ Decimal.ofNat timeout ++ "s"))
  | .finished (.exited 0) output _ =>
    match codec.readText (Text.decode output) with
    | .ok content => .ok content
    | .error problem => .error (.invalidResponse (program ++ " output: " ++ problem.message))
  | .finished exit _ errors => .error (.backend (complaint program exit errors))

variable {m : Type → Type} [Monad m]

def invoke {α : Type} (helper : Helper) (host : Host m) (codec : Json.Codec α)
    (arguments : List String) : m (Reply α) :=
  match helper.words ++ arguments with
  | [] => pure ⟨.error (.execFailed "Empty command"), []⟩
  | program :: rest => do
    let result ← host.run ⟨program, rest, helper.directory, helper.timeout⟩
    pure ⟨judge codec program helper.timeout result,
      [⟨.debug, "Running helper: " ++ Text.quotedList (program :: rest)⟩]⟩

def source (helper : Helper) (host : Host m) : StepSource m where
  name := helper.command
  list handle token pageSize :=
    helper.invoke host StepPage.shape.codec (listArguments handle token pageSize)
  rollup handle := do
    let reply ← helper.invoke host Execution.shape.codec (rollupArguments handle)
    pure ⟨reply.value.map (·.rollup), reply.log⟩

end Helper
end DeviceMatrix

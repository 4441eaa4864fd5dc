import DeviceMatrix.Log
import DeviceMatrix.Results.Handle
import DeviceMatrix.Results.Recording

/-! Step sources: whatever answers requests for pages of steps and for the outcome of a whole
execution. A source works in a monad of its own, in which a script is used up, a file read or
a helper run. -/
namespace DeviceMatrix

inductive ServiceError where
  | execFailed (message : String)
  | timeout (message : String)
  | backend (message : String)
  | invalidResponse (message : String)
  | invalidPageToken (token : String)
  | io (message : String)
  deriving DecidableEq, Repr

def ServiceError.message : ServiceError → String
  | execFailed message => "Failed to execute command: " ++ message
  | timeout message => "Timeout: " ++ message
  | backend message => "Backend error: " ++ message
  | invalidResponse message => "Invalid response: " ++ message
  | invalidPageToken token => "Invalid page token: " ++ token
  | io message => "IO error: " ++ message

inductive Request where
  | list (handle : ExecutionHandle) (token : Option String) (pageSize : Nat)
  | rollup (handle : ExecutionHandle)
  deriving DecidableEq, Repr

def Request.isList : Request → Bool
  | list .. => true
  | rollup .. => false

abbrev Reply (α : Type) := Logged (Except ServiceError α)

structure StepSource (m : Type → Type) where
  name : String
  list : ExecutionHandle → Option String → Nat → m (Reply StepPage)
  rollup : ExecutionHandle → m (Reply Outcome)

/-- The same source with its requests noted, latest last. -/
def StepSource.noted {m : Type → Type} [Monad m] (source : StepSource m) :
    StepSource (StateT (List Request) m) where
  name := source.name
  list handle token pageSize := do
    modify (· ++ [.list handle token pageSize])
    source.list handle token pageSize
  rollup handle := do
    modify (· ++ [.rollup handle])
    source.rollup handle

end DeviceMatrix

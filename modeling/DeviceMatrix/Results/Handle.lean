/-! The name of a test execution on a results service. -/
namespace DeviceMatrix

structure ExecutionHandle where
  project : String
  history : String
  execution : String
  deriving DecidableEq, Repr

def ExecutionHandle.show (handle : ExecutionHandle) : String :=
  handle.project ++ "/histories/" ++ handle.history ++ "/executions/" ++ handle.execution

end DeviceMatrix

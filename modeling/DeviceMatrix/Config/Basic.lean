import DeviceMatrix.Report.Format
import DeviceMatrix.Results.Handle
import DeviceMatrix.Source.Helper

/-! What a configuration file settles: the execution to look at, how many steps to ask for at
a time, where the steps come from, and how a summary is written. -/
namespace DeviceMatrix

abbrev PageSize := { size : Nat // 0 < size }

inductive SourceConfig where
  | helper (helper : Helper)
  | fixture (path : String)
  deriving DecidableEq, Repr

def SourceConfig.kind : SourceConfig → String
  | helper _ => "command"
  | fixture _ => "fixture"

structure Config where
  handle : ExecutionHandle
  pageSize : PageSize
  source : SourceConfig
  format : Report.Format
  suite : String
  deriving DecidableEq, Repr

namespace Config

def defaultPageSize : PageSize := ⟨100, by decide⟩
def defaultTimeout : Nat := 60
def defaultFormat : Report.Format := .table
def defaultSuite : String := "matrix"

end Config
end DeviceMatrix

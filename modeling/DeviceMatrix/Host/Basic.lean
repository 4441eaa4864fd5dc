import DeviceMatrix.Host.Error
import DeviceMatrix.Host.Signal

/-! What the program asks of the system it runs on. -/
namespace DeviceMatrix.Host

structure Invocation where
  program : String
  arguments : List String
  /-- Where the program runs, unless it is where its caller runs. -/
  directory : Option String
  /-- How many seconds it may take. -/
  timeout : Nat
  deriving DecidableEq, Repr

inductive Exit where
  | exited (code : Nat)
  | killed (signal : Nat) (dumped : Bool := false)
  deriving DecidableEq, Repr

inductive RunResult where
  | notStarted (error : IoError)
  | timedOut
  | finished (exit : Exit) (output errors : List UInt8)
  deriving DecidableEq, Repr

def Exit.describe : Exit → String
  | exited code => "exit status: " ++ Decimal.ofNat code
  | killed signal dumped =>
    "signal: " ++ Decimal.ofNat signal ++
      ((Signal.named? signal).map fun signal => " (SIG" ++ signal.name ++ ")").getD "" ++
      Signal.dumpNote dumped

end DeviceMatrix.Host

namespace DeviceMatrix

/-- Files and programs, in a monad of the system's own. -/
structure Host (m : Type → Type) where
  home : String
  read : String → m (Except Host.IoError (List UInt8))
  present : String → m Bool
  /-- Makes a directory and those it stands in. -/
  makeDirectories : String → m (Except Host.IoError Unit)
  write : String → List UInt8 → m (Except Host.IoError Unit)
  run : Host.Invocation → m Host.RunResult

end DeviceMatrix

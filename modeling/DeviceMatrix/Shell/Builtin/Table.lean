import DeviceMatrix.Shell.Builtin.Input
import DeviceMatrix.Shell.Builtin.Output
import DeviceMatrix.Shell.Builtin.Place
import DeviceMatrix.Shell.Builtin.Process
import DeviceMatrix.Shell.Builtin.Setting

/-! The commands of the shell by name. -/
namespace DeviceMatrix.Shell

namespace Builtin

open Act

def find? (name : String) : Option Builtin :=
  match name with
  | ":" | "true" => some fun _ => return 0
  | "false" => some fun _ => return 1
  | "[" => some bracket
  | "alias" => some setAliases
  | "bg" | "fg" => some resume
  | "break" => some leaveLoop
  | "cd" | "chdir" => some changeDirectory
  | "continue" => some continueLoop
  | "echo" => some echo
  | "exit" => some exit
  | "export" => some (declare "export" ({ · with exported := true }) (·.exported))
  | "getopts" => some nextOption
  | "jobs" => some listJobs
  | "kill" => some kill
  | "local" => some declareLocal
  | "printf" => some printf
  | "pwd" => some workingDirectory
  | "read" => some readLine
  | "readonly" => some (declare "readonly" ({ · with fixed := true }) (·.fixed))
  | "return" => some giveBack
  | "set" => some setting
  | "shift" => some shift
  | "test" => some condition
  | "times" => some times
  | "trap" => some trap
  | "ulimit" => some limit
  | "umask" => some umask
  | "unalias" => some unalias
  | "unset" => some unset
  | "wait" => some waiting
  | _ => none

end Builtin
end DeviceMatrix.Shell

import DeviceMatrix.Shell.Builtin.Basic
import DeviceMatrix.Shell.Printf

/-! Commands that print their words. -/
namespace DeviceMatrix.Shell

namespace Builtin

open Act

def echo : Builtin := fun words =>
  let (ended, words) := match words with
    | ['-', 'n'] :: words => (false, words)
    | words => (true, words)
  let (printed, more) := Escape.text ([' '].intercalate words)
  output (printed ++ if ended && more then ['\n'] else [])

def printf : Builtin := fun words => do
  match ← operands words with
  | [] => fail "usage: printf format [arg ...]".toList
  | format :: words =>
    let result := Printf.run format words
    result.complaints.forM complain
    let status ← output result.text
    if result.failed then
      modify ({ · with status := 2 })
      throw .error
    return if result.complaints.isEmpty then status else 1

end Builtin
end DeviceMatrix.Shell

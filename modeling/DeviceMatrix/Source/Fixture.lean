import DeviceMatrix.Host.Basic
import DeviceMatrix.Host.Path
import DeviceMatrix.Results.Wire
import DeviceMatrix.Source.Recorded

/-! Recordings read from files. -/
namespace DeviceMatrix

namespace Host

variable {m : Type → Type} [Monad m]

def readText (host : Host m) (path : String) : m (Except IoError (List Char)) := do
  let read ← host.read path
  return read.bind fun content =>
    match Text.Symbol.text? (Text.decode content) with
    | some text => .ok text
    | none => .error .notUtf8

end Host

namespace Recording

def load {m n : Type → Type} [Monad m] [Monad n] (host : Host m) (path : String) :
    m (Logged (Except ServiceError (StepSource n))) := do
  let path := Host.Path.expandHome host.home path
  match ← host.readText path with
  | .error error => return ⟨.error (.io error.message), []⟩
  | .ok text =>
    match Recording.shape.codec.readText (Text.Symbol.ofText text) with
    | .error problem => return ⟨.error (.invalidResponse (path ++ ": " ++ problem.message)), []⟩
    | .ok recording =>
      return ⟨.ok (recording.source path),
        [⟨.debug, "Loaded " ++ Decimal.ofNat recording.steps.length ++ " recorded steps from " ++
          path⟩]⟩

end Recording
end DeviceMatrix

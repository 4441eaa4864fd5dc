import DeviceMatrix.Host.Basic
import DeviceMatrix.Host.Path
import DeviceMatrix.Log
import DeviceMatrix.Text.Utf8

/-! Writing a report to a file. Directories that are missing on the way are made. -/
namespace DeviceMatrix.Report

inductive WriteError where
  | directory (path : String) (error : Host.IoError)
  | file (path : String) (error : Host.IoError)
  deriving DecidableEq, Repr

def WriteError.message : WriteError → String
  | directory path _ => "Failed to create output directory: " ++ path
  | file path _ => "Failed to write report: " ++ path

def WriteError.cause : WriteError → String
  | directory _ error => error.message
  | file _ error => error.message

variable {m : Type → Type} [Monad m]

def prepare (host : Host m) (path : String) : m (Except WriteError Unit) := do
  match Host.Path.parent? path with
  | none => return .ok ()
  | some parent =>
    if parent = "" then return .ok ()
    else if ← host.present parent then return .ok ()
    else match ← host.makeDirectories parent with
      | .ok () => return .ok ()
      | .error error => return .error (.directory parent error)

def write (host : Host m) (path content : String) : m (Logged (Except WriteError Unit)) := do
  match ← prepare host path with
  | .error error => return ⟨.error error, []⟩
  | .ok () =>
    match ← host.write path (Text.encode content) with
    | .error error => return ⟨.error (.file path error), []⟩
    | .ok () => return ⟨.ok (), [⟨.info, "Report written to: " ++ path⟩]⟩

end DeviceMatrix.Report

import DeviceMatrix.Config.Decode
import DeviceMatrix.Source.Fixture
import DeviceMatrix.Toml.Document

/-! Reading a configuration from text or from a file. -/
namespace DeviceMatrix

inductive ConfigError where
  | unread (path : String) (error : Host.IoError)
  /-- The file, unless the text was given directly. -/
  | invalid (path : Option String) (problem : Record.Problem)
  deriving DecidableEq, Repr

def ConfigError.message : ConfigError → String
  | unread path _ => "Failed to read config file: " ++ path
  | invalid (some path) _ => "Failed to parse config file: " ++ path
  | invalid none _ => "Failed to parse config"

def ConfigError.cause : ConfigError → String
  | unread _ error => error.message
  | invalid _ problem => problem.message

namespace Config

def parse (text : List Char) : Except Record.Problem Config :=
  match Toml.read? text with
  | some entries => ofEntries entries
  | none => .error .malformed

def ofText (text : String) : Except ConfigError Config :=
  match parse text.toList with
  | .ok config => .ok config
  | .error problem => .error (.invalid none problem)

def load {m : Type → Type} [Monad m] (host : Host m) (path : String) :
    m (Except ConfigError Config) := do
  match ← host.readText path with
  | .error error => return .error (.unread path error)
  | .ok text =>
    match parse text with
    | .ok config => return .ok config
    | .error problem => return .error (.invalid (some path) problem)

end Config
end DeviceMatrix

import DeviceMatrix.Config.Load
import DeviceMatrix.Proofs.Host.Machine
import DeviceMatrix.Proofs.Text.Utf8

/-! What a machine has at a path: the text of a file, and a configuration. Reading it changes
nothing, and does not depend on the programs of the machine. -/
namespace DeviceMatrix

open Host (Machine)
open Host.Machine (Reads hostWith play_bind)

def Host.Machine.textAt (machine : Machine) (path : String) : Except Host.IoError (List Char) :=
  (((Host.Machine.host machine.home).readText path).run machine).1

def Host.Machine.configAt (machine : Machine) (path : String) : Except ConfigError Config :=
  ((Config.load (Host.Machine.host machine.home) path).run machine).1

variable {machine : Machine} {path : String}

theorem textAt_of_read {text : String}
    (read : machine.disk.read machine.directory path = .ok (Text.encode text)) :
    machine.textAt path = .ok text.toList := by
  change (machine.disk.read machine.directory path).bind _ = _
  rw [read]
  simp only [Except.bind, Text.decode_encode, Text.text?_ofString]

theorem configAt_eq :
    machine.configAt path = match machine.textAt path with
      | .error error => .error (.unread path error)
      | .ok text => match Config.parse text with
        | .ok config => .ok config
        | .error problem => .error (.invalid (some path) problem) := by
  have run : machine.configAt path = ((match machine.textAt path with
      | .error error => pure (.error (.unread path error))
      | .ok text => match Config.parse text with
        | .ok config => pure (.ok config)
        | .error problem => pure (.error (.invalid (some path) problem)) :
      StateM Machine (Except ConfigError Config)).run machine).1 := rfl
  rw [run]
  cases machine.textAt path with
  | error error => rfl
  | ok text => cases parsed : Config.parse text <;> simp only [parsed] <;> rfl

theorem configAt_of_read {text : String} {config : Config}
    (read : machine.disk.read machine.directory path = .ok (Text.encode text))
    (parsed : Config.parse text.toList = .ok config) : machine.configAt path = .ok config := by
  rw [configAt_eq, textAt_of_read read]
  simp only [parsed]

section

variable {σ : Type} (home : String)
  (programs : Host.Invocation → StateT σ (StateM Machine) Host.RunResult) (machine : Machine)
  (path : String)

theorem reads_readText :
    Reads machine ((hostWith home programs).readText path) (machine.textAt path) :=
  fun _ => rfl

theorem reads_load :
    Reads machine (Config.load (hostWith home programs) path) (machine.configAt path) := by
  intro world
  rw [Config.load, play_bind, reads_readText home programs machine path world, configAt_eq]
  cases machine.textAt path with
  | error error => rfl
  | ok text => cases parsed : Config.parse text <;> simp only [parsed] <;> rfl

end
end DeviceMatrix

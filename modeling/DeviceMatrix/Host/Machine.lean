import DeviceMatrix.Host.Programs

/-! A whole system as a value: its disk, the home directory, and the directory that the
program runs in. -/
namespace DeviceMatrix.Host

structure Machine where
  disk : Disk
  home : String
  directory : Location
  /-- Whether the memory of programs that crash is kept, outside of the disk. -/
  cores : Bool := false
  /-- What was written to open descriptors by their paths. -/
  written : List (Nat × List UInt8) := []
  deriving DecidableEq, Repr

namespace Machine

def workplace (machine : Machine) : Option String → Except IoError Location
  | none => .ok machine.directory
  | some path => do
    match ← machine.disk.find machine.directory path with
    | .directory => machine.disk.locate machine.directory path
    | _ => throw .notDirectory

def run (machine : Machine) (invocation : Invocation) : Except IoError Programs.Done := do
  let words := invocation.program :: invocation.arguments
  if (words ++ invocation.directory.toList).any (·.contains '\x00') then throw .nulInArgument
  let directory ← machine.workplace invocation.directory
  let program ← Programs.named machine.disk directory invocation.program
  return Programs.run machine.disk machine.cores directory machine.home invocation.timeout
    program words

def host (home : String) : Host (StateM Machine) where
  home := home
  read path := do
    let machine ← get
    return machine.disk.read machine.directory path
  present path := do
    let machine ← get
    return (machine.disk.find machine.directory path).isOk
  makeDirectories path := do
    let machine ← get
    let (disk, result) := Disk.ensureAll machine.directory (path.length + 1) path machine.disk
    set { machine with disk }
    return result
  write path content := do
    let machine ← get
    if let .ok (.device (.opened descriptor)) := machine.disk.find machine.directory path then
      set { machine with written := machine.written ++ [(descriptor, content)] }
      return .ok ()
    match machine.disk.write machine.directory path content with
    | .ok disk =>
      set { machine with disk }
      return .ok ()
    | .error error => return .error error
  run invocation := do
    let machine ← get
    match machine.run invocation with
    | .error error => return .notStarted error
    | .ok done =>
      set { machine with disk := done.disk }
      return done.result

end Machine
end DeviceMatrix.Host

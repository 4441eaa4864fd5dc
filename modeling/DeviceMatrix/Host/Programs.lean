import DeviceMatrix.Shell.Run

/-! The programs that a system starts by name, and a run of one from its start to its end. -/
namespace DeviceMatrix.Host.Programs

def places : List String :=
  ["/usr/local/sbin", "/usr/local/bin", "/usr/sbin", "/usr/bin", "/sbin", "/bin"]

/-- The longest name that a program is looked for by, in bytes. -/
def longestName : Nat := 255

/-- The program of a name in one of some directories. What stands there and is no program is in
the way if nothing better is found. -/
def search (disk : Disk) (name : String) : (reason : IoError) → List String → Except IoError String
  | reason, [] => .error reason
  | reason, place :: others =>
    match disk.find [] (place ++ "/" ++ name) with
    | .ok (.program found) => .ok found
    | .ok _ => search disk name .permissionDenied others
    | .error _ => search disk name reason others

/-- The program that a name stands for. One with a slash in it is a path. -/
def named (disk : Disk) (directory : Location) (name : String) : Except IoError String :=
  if name.contains '/' then
    match disk.find directory name with
    | .ok (.program found) => .ok found
    | .ok _ => .error .permissionDenied
    | .error error => .error error
  else if name = "" then .error .notFound
  else if longestName < name.utf8ByteSize then .error .nameTooLong
  else search disk name .notFound places

structure Done where
  result : RunResult
  disk : Disk

/-- How deep commands can stand within each other, and how often they can be repeated. -/
def bound : Nat := 1000000000

/-- The process of a program before it runs. It reads nothing, and is given no more than the home
directory and the places of programs. -/
def process (disk : Disk) (cores : Bool) (directory : Location) (home : String) (timeout : Nat)
    (name : List Char) : Shell.State :=
  { world :=
      { disk
        files := [(0, .device .null), (1, .stream Shell.World.standard),
          (2, .stream Shell.World.diagnostic)]
        nextFile := 3
        streams := [(Shell.World.standard, []), (Shell.World.diagnostic, [])]
        running := [4242]
        deadline := 1000000 * timeout
        cores }
    name
    directory
    descriptors := [(0, 0), (1, 1), (2, 2)]
    bindings := [
      ("HOME", ⟨some (Shell.ofText home), true, false⟩),
      ("PATH", ⟨some Shell.Finding.standardPlaces, true, false⟩)] }

/-- Runs a program with its words. It is over when no process can print any more. -/
def run (disk : Disk) (cores : Bool) (directory : Location) (home : String) (timeout : Nat)
    (program : String) (words : List String) : Done :=
  let words := words.map Shell.ofText
  let state := process disk cores directory home timeout (words.headD [])
  match Shell.conclude bound (Shell.start bound program words) state with
  | (result, state) =>
    let world := state.world
    let released := max (world.released Shell.World.standard)
      (world.released Shell.World.diagnostic)
    let printed (stream : Nat) : List UInt8 := Shell.toBytes (world.printout stream).text
    match result with
    | .ok exit =>
      if world.deadline ≤ max state.now released then ⟨.timedOut, world.disk⟩
      else
        ⟨.finished exit (printed Shell.World.standard) (printed Shell.World.diagnostic),
          world.disk⟩
    | .error _ => ⟨.timedOut, world.disk⟩

end DeviceMatrix.Host.Programs

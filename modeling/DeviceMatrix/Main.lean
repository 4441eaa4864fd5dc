import DeviceMatrix.Cli.Run
import DeviceMatrix.Host.Machine

/-! The program on a real system. Files are those of the system; helpers are run by the
library's own shell, on the files below the working directory as they are at that moment. -/
namespace DeviceMatrix.System

open Host (IoError RunResult)

def ioError : IO.Error → IoError
  | .noFileOrDirectory _ _ _ => .notFound
  | .permissionDenied _ _ _ => .permissionDenied
  | .alreadyExists _ _ _ => .alreadyExists
  | .inappropriateType _ code _ => if code = 21 then .isDirectory else .notDirectory
  | .invalidArgument _ code _ => if code = 36 then .nameTooLong else .nulInPath
  | _ => .notFound

def attempt {α : Type} (action : IO α) : IO (Except IoError α) := do
  try return .ok (← action)
  catch error => return .error (ioError error)

def location (path : String) : Host.Location := (path.splitOn "/").filter (· ≠ "")

def snapshot (home : String) : IO Host.Machine := do
  let here ← IO.currentDir
  let mut disk : Host.Disk := {}
  let names := location here.toString
  for depth in [0:names.length] do
    disk := disk.put (names.take (depth + 1)) .directory
  for path in ← here.walkDir do
    if ← path.isDir then
      disk := disk.put (location path.toString) .directory
    else
      match ← attempt (IO.FS.readBinFile path) with
      | .ok content => disk := disk.put (location path.toString) (.file content.toList)
      | .error _ => pure ()
  return { disk, home, directory := names }

def settle (before after : Host.Disk) : IO Unit := do
  for (location, node) in after.entries do
    match node with
    | .file content =>
      if before.node? location ≠ some node then
        let path := "/" ++ "/".intercalate location
        let _ ← attempt (IO.FS.writeBinFile path ⟨content.toArray⟩)
    | _ => pure ()

def host (home : String) : Host IO where
  home := home
  read path := do
    if path.contains '\x00' then return .error .nulInPath
    let read ← attempt (IO.FS.readBinFile path)
    return read.map (·.toList)
  present path := do
    let here ← IO.currentDir
    (here / path).pathExists
  makeDirectories path := attempt (IO.FS.createDirAll path)
  write path content := attempt (IO.FS.writeBinFile path ⟨content.toArray⟩)
  run invocation := do
    let machine ← snapshot home
    match machine.run invocation with
    | .error error => return .notStarted error
    | .ok done =>
      settle machine.disk done.disk
      return done.result

end DeviceMatrix.System

open DeviceMatrix in
def main (words : List String) : IO UInt32 := do
  let stdout ← IO.getStdout
  let stderr ← IO.getStderr
  let color := (← IO.getEnv "CLICOLOR_FORCE").any (· ≠ "0") || (← stdout.isTty)
  let home := (← IO.getEnv "HOME").getD "~"
  let printed ← Cli.run { color } (System.host home) words
  stdout.putStr printed.output
  for line in printed.errors do
    stderr.putStrLn line
  return printed.exit.toUInt32

import DeviceMatrix.Host.Error
import DeviceMatrix.Host.Path

/-! A file system: directories and files at locations, which are the names on the way from the
root, beside the directories, devices and programs that every system has. Paths are followed
name by name, as an operating system does. -/
namespace DeviceMatrix.Host

abbrev Location := List String

inductive Device where
  | null
  | zero
  /-- Takes nothing, and gives zeros without end. -/
  | full
  | terminal
  /-- What a process has open under a number. -/
  | opened (descriptor : Nat)
  deriving DecidableEq, Repr

inductive Node where
  | file (content : List UInt8)
  | directory
  | device (device : Device)
  | program (name : String)
  deriving DecidableEq, Repr

namespace Node

def programs : List String := [
  "[", "awk", "base64", "basename", "bash", "cat", "chmod", "chown", "cksum", "cmp", "comm", "cp",
  "cut", "dash", "date", "dd", "df", "diff", "dirname", "du", "echo", "env", "expand", "expr",
  "factor", "false", "find", "fold", "getconf", "grep", "egrep", "fgrep", "gzip", "gunzip", "head",
  "hostname", "id", "install", "join", "kill", "ln", "locale", "login", "ls", "md5sum", "mkdir",
  "mkfifo", "mknod", "mktemp", "more", "mv", "nice", "nl", "nohup", "nproc", "od", "paste", "perl",
  "pr", "printenv", "printf", "ps", "pwd", "readlink", "realpath", "rm", "rmdir", "sed", "seq",
  "sh", "sha1sum", "sha256sum", "shuf", "sleep", "sort", "split", "stat", "stty", "sum", "sync",
  "tac", "tail", "tar", "tee", "test", "timeout", "touch", "tr", "true", "truncate", "tsort",
  "tty", "uname", "unexpand", "uniq", "unlink", "wc", "which", "who", "whoami", "xargs", "yes",
  "zcat"]

/-- What a process has open under the number that a name is. -/
def opened? (name : String) : Option Node :=
  (Decimal.natural? name.toList).map fun number => .device (.opened number)

def system? (location : Location) : Option Node :=
  match location with
  | [] => some .directory
  | ["dev", "null"] => some (.device .null)
  | ["dev", "full"] => some (.device .full)
  | ["dev", "zero"] => some (.device .zero)
  | ["dev", "tty"] => some (.device .terminal)
  | ["dev", "fd"] | ["proc", "self"] | ["proc", "self", "fd"] => some .directory
  | ["dev", "fd", name] | ["proc", "self", "fd", name] => opened? name
  | ["dev", "stdin"] => some (.device (.opened 0))
  | ["dev", "stdout"] => some (.device (.opened 1))
  | ["dev", "stderr"] => some (.device (.opened 2))
  | ["usr", "bin", name] => if programs.contains name then some (.program name) else none
  | ["usr", name] | ["var", name] =>
    if ["bin", "sbin", "lib", "local", "share", "log", "tmp"].contains name then some .directory
    else none
  | ["usr", "local", "bin"] | ["usr", "local", "sbin"] => some .directory
  | [name] =>
    if ["dev", "etc", "home", "media", "mnt", "opt", "proc", "root", "run", "srv", "sys", "tmp",
        "usr", "var"].contains name then some .directory
    else none
  | _ => none

end Node

/-- Where a location leads: the directories of programs stand below `usr`. -/
def settled : Location → Location
  | ["bin"] => ["usr", "bin"]
  | ["sbin"] => ["usr", "sbin"]
  | ["lib"] => ["usr", "lib"]
  | location => location

structure Disk where
  entries : List (Location × Node) := []
  deriving DecidableEq, Repr

namespace Disk

def node? (disk : Disk) (location : Location) : Option Node :=
  (disk.entries.lookup location).or (Node.system? location)

def put (disk : Disk) (location : Location) (node : Node) : Disk where
  entries := (location, node) :: disk.entries.filter (·.1 ≠ location)

def enter (disk : Disk) (location : Location) (name : String) : Except IoError Location :=
  match disk.node? location with
  | none => .error .notFound
  | some .directory =>
    if name = "." then .ok location
    else if name = ".." then .ok location.dropLast
    else if name.utf8ByteSize > 255 then .error .nameTooLong
    else .ok (settled (location ++ [name]))
  | some _ => .error .notDirectory

/-- The location at which a path starts, and the names to be followed from there. -/
def route (directory : Location) (path : String) : Except IoError (Location × List String) :=
  if path.toList.contains '\x00' then .error .nulInPath
  else if path = "" then .error .notFound
  else if path.utf8ByteSize > 4095 then .error .nameTooLong
  else .ok (if path.startsWith "/" then [] else directory, (Path.names path).filter (· ≠ ""))

/-- Where a path leads. Whether anything is at its end is left open. -/
def locate (disk : Disk) (directory : Location) (path : String) : Except IoError Location := do
  let (start, names) ← route directory path
  names.foldlM disk.enter start

/-- What a path names. With a slash at the end it must be a directory. -/
def find (disk : Disk) (directory : Location) (path : String) : Except IoError Node := do
  let location ← disk.locate directory path
  match disk.node? location with
  | none => throw .notFound
  | some .directory => return .directory
  | some node => if path.endsWith "/" then throw .notDirectory else return node

def isDirectory (disk : Disk) (directory : Location) (path : String) : Bool :=
  match disk.find directory path with
  | .ok .directory => true
  | _ => false

/-- What is read from a file. Programs are no text. -/
def read (disk : Disk) (directory : Location) (path : String) :
    Except IoError (List UInt8) := do
  match ← disk.find directory path with
  | .directory => throw .isDirectory
  | .file content => return content
  | .device .terminal => throw .noDevice
  | .device _ => return []
  | .program _ => return [0x7f, 0x45, 0x4c, 0x46, 0xff]

/-- A name that a file can be given: not a dot, and without a slash behind it. -/
def namesFile (path : String) : Bool :=
  match (Path.names path).getLast? with
  | some name => !(name == "" || name == "." || name == "..")
  | none => false

/-- Where a path leads that a file is to be written to, and what is there. The directory is
found before the name is looked at. -/
def target (disk : Disk) (directory : Location) (path : String) :
    Except IoError (Location × Option Node) := do
  let (start, names) ← route directory path
  let parent ← names.dropLast.foldlM disk.enter start
  discard (disk.enter parent ".")
  unless namesFile path do throw .isDirectory
  let location ← disk.enter parent (names.getLastD "")
  match disk.node? location with
  | some .directory => throw .isDirectory
  | node => return (location, node)

def write (disk : Disk) (directory : Location) (path : String) (content : List UInt8) :
    Except IoError Disk := do
  match ← disk.target directory path with
  | (_, some (.device .null)) | (_, some (.device .zero)) => return disk
  | (_, some (.device .terminal)) => throw .noDevice
  | (_, some (.device .full)) => if content.isEmpty then return disk else throw .noSpace
  | (location, _) => return disk.put location (.file content)

def makeDirectory (disk : Disk) (directory : Location) (path : String) : Except IoError Disk := do
  let location ← disk.locate directory path
  if (disk.node? location).isSome then throw .alreadyExists
  return disk.put location .directory

/-- Makes a directory unless it is there. -/
def ensureDirectory (disk : Disk) (directory : Location) (path : String) : Except IoError Disk :=
  match disk.makeDirectory directory path with
  | .error error => if disk.isDirectory directory path then .ok disk else .error error
  | made => made

/-- Makes a directory and those it stands in; `depth` bounds the way up. What has been made
stays, whatever happens further down. -/
def ensureAll (directory : Location) :
    Nat → String → Disk → Disk × Except IoError Unit
  | 0, _, disk => (disk, .error .nameTooLong)
  | depth + 1, path, disk =>
    if path = "" then (disk, .ok ())
    else match disk.makeDirectory directory path with
      | .ok made => (made, .ok ())
      | .error .notFound =>
        match Path.parent? path with
        | none => (disk, .error .notFound)
        | some parent =>
          match ensureAll directory depth parent disk with
          | (made, .error error) => (made, .error error)
          | (made, .ok ()) =>
            match made.ensureDirectory directory path with
            | .ok final => (final, .ok ())
            | .error error => (made, .error error)
      | .error error =>
        if disk.isDirectory directory path then (disk, .ok ()) else (disk, .error error)

end Disk
end DeviceMatrix.Host

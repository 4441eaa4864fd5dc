import DeviceMatrix.Host.Basic
import DeviceMatrix.Host.Disk
import DeviceMatrix.Shell.Bytes

/-! What all processes of a script share: the disk, the files that are open, what has been
printed, and signals on their way. Times are in microseconds. -/
namespace DeviceMatrix.Shell

structure Chunk where
  time : Nat
  process : Nat
  content : List Char

abbrev Printout := List Chunk

namespace Printout

/-- The chunks by time; at the same time, as they were printed. -/
def inOrder (printed : Printout) : List Chunk :=
  printed.reverse.mergeSort fun a b => a.time ≤ b.time

def text (printed : Printout) : List Char := (printed.inOrder.map (·.content)).flatten

end Printout

/-- What an open file leads to. -/
inductive Endpoint where
  | stream (number : Nat)
  /-- Texts, each from a time on, and when the last has come, if ever. -/
  | inflow (left : List (Nat × List Char)) (ended : Option Nat)
  | file (location : Host.Location) (offset : Nat) (appends reads writes : Bool)
  | device (device : Host.Device)
  | directory

/-- A signal on its way to a process, and when it arrives. -/
structure Sending where
  process : Nat
  signal : Nat
  time : Nat
  deriving DecidableEq, Repr

structure Birth where
  process : Nat
  parent : Nat
  time : Nat
  deriving DecidableEq, Repr

/-- A process that runs in the background: when it ends, and how. -/
structure Task where
  process : Nat
  finish : Nat
  exit : Host.Exit
  /-- Whether the one who started it knows that it has ended. -/
  noticed : Bool := false
  deriving DecidableEq, Repr

/-- A stream that a process may print to up to a time. -/
structure Hold where
  process : Nat
  stream : Nat
  finish : Nat
  deriving DecidableEq, Repr

structure World where
  disk : Host.Disk
  /-- The open files by number, the latest first. -/
  files : List (Nat × Endpoint) := []
  nextFile : Nat := 0
  streams : List (Nat × Printout) := []
  nextStream : Nat := 2
  nextProcess : Nat := 4243
  births : List Birth := []
  running : List Nat := []
  tasks : List Task := []
  holds : List Hold := []
  sent : List Sending := []
  /-- When everything is stopped. -/
  deadline : Nat
  /-- How many more commands can be carried out until then. -/
  budget : Nat := 1000000
  /-- Whether the memory of programs that crash is kept, outside of the disk. -/
  cores : Bool := false

namespace World

/-- How a program ends that a signal ends. -/
def killed (world : World) (signal : Nat) : Host.Exit :=
  .killed signal (world.cores && Host.Signal.dumps signal)

def standard : Nat := 0
def diagnostic : Nat := 1

def replace {α : Type} (key : Nat) (value : α) : List (Nat × α) → List (Nat × α)
  | [] => [(key, value)]
  | (other, old) :: rest =>
    if other = key then (key, value) :: rest else (other, old) :: replace key value rest

def put (world : World) (file : Nat) (endpoint : Endpoint) : World :=
  { world with files := replace file endpoint world.files }

def add (world : World) (endpoint : Endpoint) : World × Nat :=
  ({ world with files := (world.nextFile, endpoint) :: world.files
                nextFile := world.nextFile + 1 }, world.nextFile)

def close (world : World) (file : Nat) : World :=
  { world with files := world.files.filter (·.1 ≠ file) }

def newStream (world : World) : World × Nat :=
  ({ world with streams := (world.nextStream, []) :: world.streams
                nextStream := world.nextStream + 1 }, world.nextStream)

def newProcess (world : World) (parent time : Nat) : World × Nat :=
  let process := world.nextProcess
  ({ world with nextProcess := process + 1
                births := ⟨process, parent, time⟩ :: world.births
                running := process :: world.running }, process)

def finish (world : World) (process : Nat) : World :=
  { world with running := world.running.filter (· ≠ process) }

def printout (world : World) (stream : Nat) : Printout := (world.streams.lookup stream).getD []

def dropStream (world : World) (stream : Nat) : World :=
  { world with streams := world.streams.filter (·.1 ≠ stream)
               holds := world.holds.filter (·.stream ≠ stream) }

/-- When nobody can print to a stream any more that those can who nobody waits for. -/
def released (world : World) (stream : Nat) : Nat :=
  (world.holds.filter (·.stream = stream)).foldl (fun time hold => max time hold.finish) 0

def overwrite (content : List UInt8) (offset : Nat) (text : List UInt8) : List UInt8 :=
  content.take offset ++ List.replicate (offset - content.length) 0 ++ text ++
    content.drop (offset + text.length)

def content (world : World) (location : Host.Location) : List UInt8 :=
  match world.disk.node? location with
  | some (.file content) => content
  | _ => []

/-- Writes to an open file; nothing if that cannot be done. -/
def write? (world : World) (file : Nat) (chunk : Chunk) : Option World :=
  match world.files.lookup file with
  | some (.stream number) =>
    some { world with
      streams := replace number (chunk :: world.printout number) world.streams }
  | some (.file location offset appends reads true) =>
    let before := world.content location
    let offset := if appends then before.length else offset
    let after := overwrite before offset (toBytes chunk.content)
    some ({ world with disk := world.disk.put location (.file after) }.put file
      (.file location (offset + chunk.content.length) appends reads true))
  | some (.device .null) | some (.device .zero) => some world
  | some (.device .full) => if chunk.content.isEmpty then some world else none
  | _ => none

structure Line where
  text : List Char
  complete : Bool
  /-- When all of it was there, if ever. -/
  time : Option Nat

/-- The line in front of texts that come by and by, and what they leave. -/
def lineOf (ended : Option Nat) : List (Nat × List Char) → Line × List (Nat × List Char)
  | [] => (⟨[], false, ended⟩, [])
  | (time, text) :: left =>
    let front := text.takeWhile (· ≠ '\n')
    match text.drop front.length with
    | _ :: rest => (⟨front, true, some time⟩, (time, rest) :: left)
    | [] =>
      let (line, left) := lineOf ended left
      ({ line with text := front ++ line.text }, left)

def takeLine? (world : World) (file : Nat) : Option (World × Line) :=
  match world.files.lookup file with
  | some (.inflow left ended) =>
    let (line, left) := lineOf ended left
    some (world.put file (.inflow left ended), line)
  | some (.file location offset appends true writes) =>
    let rest := (world.content location).drop offset
    let (line, _) := lineOf (some 0) [(0, ofBytes rest)]
    let length := line.text.length + if line.complete then 1 else 0
    some (world.put file (.file location (offset + length) appends true writes), line)
  | some (.device .null) => some (world, ⟨[], false, some 0⟩)
  | some (.device .full) | some (.device .zero) => some (world, ⟨[], false, none⟩)
  | _ => none

/-- All that is left to be read of an open file, and when the last of it was there. -/
def drain (world : World) (file : Nat) : World × List Char × Option Nat :=
  match world.files.lookup file with
  | some (.inflow left ended) =>
    (world.put file (.inflow [] ended), (left.map (·.2)).flatten, ended)
  | some (.file location offset appends true writes) =>
    let content := world.content location
    (world.put file (.file location content.length appends true writes),
      ofBytes (content.drop offset), some 0)
  | some (.device .full) | some (.device .zero) => (world, [], none)
  | _ => (world, [], some 0)

def prevents (stopped time : Nat) (births : List Birth) : List Nat :=
  births.foldr (fun birth found =>
    if (birth.parent = stopped ∧ time < birth.time) ∨ found.contains birth.parent then
      birth.process :: found
    else found) []

/-- Stops a process at a time: what it would have printed later is lost, and so is what it
would have started. -/
def stop (world : World) (process time : Nat) : World :=
  let unborn := prevents process time world.births
  let stays (chunk : Chunk) : Bool :=
    !unborn.contains chunk.process && (chunk.process ≠ process || chunk.time ≤ time)
  { world with
    streams := world.streams.map fun (number, printed) => (number, printed.filter stays)
    holds := (world.holds.filter fun hold => !unborn.contains hold.process).map fun hold =>
      if hold.process = process then { hold with finish := min hold.finish time } else hold }

def stopAll (world : World) (first last time : Nat) : World :=
  let isOne (process : Nat) : Bool := first ≤ process && process ≤ last
  { world with
    streams := world.streams.map fun (number, printed) =>
      (number, printed.filter fun chunk => !isOne chunk.process || chunk.time ≤ time)
    holds := world.holds.map fun hold =>
      if isOne hold.process then { hold with finish := min hold.finish time } else hold }

def hold (world : World) (process finish : Nat) (files : List Nat) : World :=
  let streams := files.filterMap fun file => match world.files.lookup file with
    | some (.stream number) => some number
    | _ => none
  { world with
    holds := streams.eraseDups.map (fun stream => ⟨process, stream, finish⟩) ++ world.holds }

end World
end DeviceMatrix.Shell

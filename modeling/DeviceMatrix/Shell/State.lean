import DeviceMatrix.Shell.Integer
import DeviceMatrix.Shell.Script
import DeviceMatrix.Shell.World

/-! What a running script knows and has done so far, and the actions that change it. -/
namespace DeviceMatrix.Shell

structure Variable where
  value : Option (List Char)
  exported : Bool := false
  fixed : Bool := false
  deriving DecidableEq, Repr

/-- A command in the background, by the processes of its stages. -/
structure Job where
  number : Nat
  processes : List Nat
  deriving DecidableEq, Repr

/-- How far `getopts` has come: the number of the word, and the place within it. -/
structure Progress where
  index : Nat := 1
  place : Option Nat := none
  deriving DecidableEq, Repr

/-- What a function puts back when it is left. -/
structure Kept where
  bindings : List (String × Option Variable) := []
  options : Option (List Char) := none
  deriving DecidableEq, Repr

/-- The options of a shell, by name and letter. Where the letter is a digit it only stands for
the name. -/
def optionTable : List (String × Char) :=
  [("errexit", 'e'), ("noglob", 'f'), ("ignoreeof", 'I'), ("interactive", 'i'), ("monitor", 'm'),
    ("noexec", 'n'), ("stdin", 's'), ("xtrace", 'x'), ("verbose", 'v'), ("vi", 'V'),
    ("emacs", 'E'), ("noclobber", 'C'), ("allexport", 'a'), ("notify", 'b'), ("nounset", 'u'),
    ("privileged", 'p'), ("nolog", '0'), ("debug", '1')]

structure State where
  world : World
  /-- The name of the script, or what was given in place of one. -/
  name : List Char
  arguments : List (List Char) := []
  directory : Host.Location := []
  /-- Whether the path of the directory is given with two slashes in front. -/
  slashes : Bool := false
  bindings : List (String × Variable) := []
  functions : List (String × Command) := []
  aliases : Aliases := []
  options : List Char := []
  descriptors : List (Nat × Nat) := []
  /-- What is done at the end, under zero, or when a signal comes. Nothing at all is done where
  the text is empty. -/
  traps : List (Nat × List Char) := []
  pending : List Nat := []
  status : Nat := 0
  /-- The status of the last command within the words of the current one. -/
  inner : Nat := 0
  /-- The status that an exit ends with where a trap is being dealt with. -/
  trapped : Option Nat := none
  now : Nat := 0
  process : Nat := 4242
  /-- The process that the script takes itself for. -/
  leader : Nat := 4242
  parent : Nat := 4241
  background : Option Nat := none
  jobs : List Job := []
  loops : Nat := 0
  /-- What the functions under way put back, the innermost first. -/
  frames : List Kept := []
  generation : Nat := 0
  depth : Nat := 0
  progress : Progress := {}
  line : Nat := 1
  reached : Nat := 1
  command : Option (List Char) := none
  /-- Whether what is traced is being expanded itself. -/
  tracing : Bool := false
  mask : Nat := 18

/-- Why the commands that follow are not run. -/
inductive Leave where
  | exit
  | error
  | replaced (exit : Host.Exit)
  | killed (signal : Nat)
  | broken (depth : Nat)
  | continued (depth : Nat)
  /-- The status is that of the command before where none is `given`. -/
  | returned (given : Bool)
  | late
  deriving DecidableEq, Repr

abbrev Act := ExceptT Leave (StateM State)

namespace State

def path (state : State) : List Char :=
  (if state.slashes then ['/'] else []) ++
    '/' :: ['/'].intercalate (state.directory.map ofText)

def endpoint? (state : State) (descriptor : Nat) : Option Endpoint :=
  (state.descriptors.lookup descriptor).bind fun file => state.world.files.lookup file

def held? (state : State) (name : String) : Option Variable := state.bindings.lookup name

def value? (state : State) (name : String) : Option (List Char) :=
  (state.held? name).bind (·.value)

def has (state : State) (option : Char) : Bool := state.options.contains option

def set (state : State) (option : Char) (on : Bool) : State :=
  let others := state.options.filter (· ≠ option)
  { state with options := if on then option :: others else others }

def shownOptions (state : State) : List Char :=
  (optionTable.map (·.2)).reverse.filter fun letter => letter.isAlpha && state.has letter

def defaultSeparators : List Char := [' ', '\t', '\n']

/-- The separators of words: spacing unless the script says otherwise. -/
def separators (state : State) : List Char := (state.value? "IFS").getD defaultSeparators

def put (state : State) (name : String) (entry : Variable) : State :=
  { state with bindings := (name, entry) :: state.bindings.filter (·.1 ≠ name) }

def assign (state : State) (name : String) (value : List Char) (exported : Bool) : State :=
  let before := (state.held? name).getD ⟨none, false, false⟩
  state.put name
    { before with
      value := some value
      exported := before.exported || exported || state.has 'a' }

def remove (state : State) (name : String) : State :=
  { state with bindings := state.bindings.filter (·.1 ≠ name) }

def putBack (state : State) (name : String) : Option Variable → State
  | some entry => state.put name entry
  | none => state.remove name

/-- The variables that programs get to see. -/
def environment (state : State) : List (String × List Char) :=
  state.bindings.filterMap fun (name, entry) =>
    if entry.exported then entry.value.map (name, ·) else none

/-- What is done when a signal comes; nothing if it does what it always does. -/
def trap? (state : State) (signal : Nat) : Option (List Char) := state.traps.lookup signal

def hasTraps (state : State) : Bool := state.traps.any fun (_, action) => !action.isEmpty

/-- What a signal does to the script itself. A trap keeps the default from happening. -/
def effect (state : State) (signal : Nat) : Host.Signal.Effect :=
  if (state.trap? signal).isSome && !Host.Signal.isFinal signal then .nothing
  else Host.Signal.effect signal

end State

namespace Act

/-- Prints to a descriptor; says whether that could be done. -/
def print (descriptor : Nat) (content : List Char) : Act Bool := do
  let state ← get
  match state.descriptors.lookup descriptor with
  | none => return false
  | some file =>
    match state.world.write? file ⟨state.now, state.process, content⟩ with
    | none => return false
    | some world =>
      set { state with world }
      return true

def complain (text : List Char) : Act Unit := do
  let state ← get
  let command := match state.command with
    | some command => command ++ ": ".toList
    | none => []
  let _ ← print 2 (state.name ++ ": ".toList ++ Decimal.digits state.line ++ ": ".toList ++
    command ++ text ++ ['\n'])

def fail {α : Type} (text : List Char) : Act α := do
  complain text
  modify ({ · with status := 2 })
  throw .error

/-- The first signal on its way that does something by itself, up to a time. -/
def interruption? (state : State) (last : Nat) : Option Sending :=
  let own := state.world.sent.filter fun sending =>
    sending.process = state.process && sending.time ≤ last &&
      state.effect sending.signal ≠ .nothing
  (own.mergeSort fun a b => a.time ≤ b.time).head?

def receive : Act Unit := modify fun state =>
  if state.world.sent.isEmpty then state
  else
    let (arrived, waiting) := state.world.sent.partition fun sending =>
      sending.process = state.process && sending.time ≤ state.now
    let caught := arrived.filterMap fun sending => match state.trap? sending.signal with
      | some (_ :: _) => some sending.signal
      | _ => none
    { state with
      world := { state.world with sent := waiting }
      pending := (caught ++ state.pending).eraseDups.mergeSort }

/-- Lets time pass up to a time at least. -/
def wait (time : Nat) : Act Unit := do
  let state ← get
  let now := max state.now time
  match interruption? state now with
  | some sending =>
    if state.world.deadline ≤ sending.time || state.effect sending.signal = .stops then throw .late
    set { state with now := max state.now sending.time }
    throw (.killed sending.signal)
  | none =>
    if state.world.deadline ≤ now then throw .late
    set { state with now }
    receive

/-- The longest value that a variable can be given in time. -/
def longestValue : Nat := 10000000

def assign (name : String) (value : List Char) (exported : Bool := false) : Act Unit := do
  unless isName name.toList do fail (name.toList ++ ": bad variable name".toList)
  if longestValue < value.length then throw .late
  let state ← get
  if (state.held? name).any (·.fixed) then fail (name.toList ++ ": is read only".toList)
  set (state.assign name value exported)
  if name = "OPTIND" then
    match Integer.small? value with
    | some index => modify ({ · with progress := ⟨max 1 index, none⟩ })
    | none => fail ("Illegal number: ".toList ++ value)

def attempt {α : Type} (action : Act α) : Act (Except Leave α) := fun state =>
  match action state with
  | (result, state) => (.ok result, state)

end Act
end DeviceMatrix.Shell

import DeviceMatrix.Shell.Expansion

/-! Redirections: a descriptor is made to lead to a file, to what another one leads to, or to a
text. -/
namespace DeviceMatrix.Shell

/-- A redirection once its words have been expanded, but for the text itself. -/
inductive Target where
  | file (descriptor : Nat) (opening : Opening) (path : List Char)
  | duplicate (descriptor : Nat) (source : Option Nat)
  | text (descriptor : Nat) (content : Word)

namespace Target

def descriptor : Target → Nat
  | file descriptor _ _ => descriptor
  | duplicate descriptor _ => descriptor
  | text descriptor _ => descriptor

def expand (capture : Capture) : Redirect → Act Target
  | .file descriptor opening path => do
    return .file descriptor opening (← Word.text capture .front path)
  | .duplicate descriptor source => do
    match ← Word.text capture .front source with
    | ['-'] => return .duplicate descriptor none
    | [c] => do
      if c.isDigit then return .duplicate descriptor (some (Decimal.digitValue c))
      wrong
    | _ => wrong
  | .text descriptor content => return .text descriptor content
where
  wrong : Act Target := do
    modify fun state => { state with line := state.reached }
    Act.fail "Syntax error: Bad fd number".toList

def expandAll (capture : Capture) : List Redirect → Act (List Target)
  | [] => return []
  | redirect :: redirects => do
    let first ← expand capture redirect
    let others ← expandAll capture redirects
    return first :: others

def connect (descriptor : Nat) (found? : Option Nat) : Act Unit := modify fun state =>
  let others := state.descriptors.filter (·.1 ≠ descriptor)
  { state with descriptors := (found?.map (descriptor, ·)).toList ++ others }

def lead (descriptor : Nat) (endpoint : Endpoint) : Act Unit := do
  let state ← get
  let (world, number) := state.world.add endpoint
  set { state with world }
  connect descriptor (some number)

def refused {α : Type} (opening : Opening) (path : List Char) (error : Host.IoError) : Act α :=
  let (verb, missing) := match opening with
    | .reading => ("open", "No such file")
    | _ => ("create", "Directory nonexistent")
  let reason := match error with
    | .notFound | .notDirectory => missing
    | error => error.text.1
  Act.fail (("cannot " ++ verb ++ " ").toList ++ path ++ ": ".toList ++ reason.toList)

/-- What a path leads to, with its location: where it names a descriptor that leads to a file,
the file. -/
def followed (state : State) (location : Host.Location) (node? : Option Host.Node) :
    Host.Location × Option Host.Node :=
  match node? with
  | some (.device (.opened source)) =>
    match state.endpoint? source with
    | some (.file location _ _ _ _) => (location, state.world.disk.node? location)
    | some .directory => (location, some .directory)
    | _ => (location, node?)
  | node? => (location, node?)

def leadAgain (descriptor : Nat) (opening : Opening) (path : List Char) (source : Nat) :
    Act Unit := do
  match (← get).descriptors.lookup source with
  | some found => connect descriptor (some found)
  | none => refused opening path .notFound

def leadToDevice (descriptor : Nat) (opening : Opening) (path : List Char) :
    Host.Device → Act Unit
  | .opened source => leadAgain descriptor opening path source
  | .terminal => refused opening path .noDevice
  | device => lead descriptor (.device device)

def readFile (descriptor : Nat) (path : List Char) : Act Unit := do
  let state ← get
  let disk := state.world.disk
  match disk.find state.directory (toText path), disk.locate state.directory (toText path) with
  | .ok node, .ok location =>
    match followed state location (some node) with
    | (location, some (.file _)) => lead descriptor (.file location 0 false true false)
    | (_, some .directory) => lead descriptor .directory
    | (_, some (.device device)) => leadToDevice descriptor .reading path device
    | (_, some (.program _)) => lead descriptor (.inflow [] (some 0))
    | (_, none) => refused .reading path .notFound
  | .error error, _ | _, .error error => refused .reading path error

def writeFile (descriptor : Nat) (opening : Opening) (path : List Char) : Act Unit := do
  let state ← get
  match state.world.disk.target state.directory (toText path) with
  | .error error => refused opening path error
  | .ok (location, node?) =>
    match followed state location node? with
    | (_, some (.device device)) => leadToDevice descriptor opening path device
    | (_, some .directory) => refused opening path .isDirectory
    | (location, node?) => do
      let spared := state.has 'C' && opening = .writing && node?.isSome
      if spared then refused opening path .alreadyExists
      let kept := opening = .appending || opening = .both
      unless kept && node?.isSome do
        set { state with
          world := { state.world with disk := state.world.disk.put location (.file []) } }
      lead descriptor
        (.file location 0 (opening = .appending) (opening = .both) true)

def apply (capture : Capture) : Target → Act Unit
  | .file descriptor .reading path => readFile descriptor path
  | .file descriptor opening path => writeFile descriptor opening path
  | .duplicate descriptor none => connect descriptor none
  | .duplicate descriptor (some source) => do
    unless source = descriptor do
      match (← get).descriptors.lookup source with
      | some found => connect descriptor (some found)
      | none =>
        Act.fail (Decimal.digits source ++ ": Bad file descriptor".toList)
  | .text descriptor content => do
    let text ← Word.text capture .nowhere content
    lead descriptor (.inflow [((← get).now, text)] (some (← get).now))

def applyAll (capture : Capture) : List Target → Act Unit
  | [] => return
  | target :: targets => do
    apply capture target
    applyAll capture targets

/-- Puts back what redirections changed, and closes what they opened. -/
def undo (before : State) (targets : List Target) : Act Unit := modify fun state =>
  let changed := targets.map descriptor
  let descriptors := before.descriptors.filter (fun (number, _) => changed.contains number) ++
    state.descriptors.filter fun (number, _) => !changed.contains number
  let files := state.world.files.filter fun (number, _) =>
    number < before.world.nextFile || descriptors.any (·.2 = number)
  { state with descriptors, world := { state.world with files } }

end Target
end DeviceMatrix.Shell

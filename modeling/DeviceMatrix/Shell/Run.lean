import DeviceMatrix.Shell.Builtin.Table
import DeviceMatrix.Shell.Call
import DeviceMatrix.Shell.Program
import DeviceMatrix.Shell.Redirection

/-! Running commands. A process that a script starts is run to its end when it starts, on a clock
of its own; the script then goes on at once, or when the process has ended. -/
namespace DeviceMatrix.Shell

/-- How a command is run. -/
structure Mode where
  /-- Whether its failure is looked at. -/
  tested : Bool := false
  /-- Whether its process does nothing behind it, so that a program can take its place. -/
  final : Bool := false

def Mode.inner (mode : Mode) : Mode := { mode with final := false }

/-- How a process ended, and when. -/
structure Ended where
  process : Nat
  exit : Host.Exit
  finish : Nat

/-- A loop that something left: whether it goes on, or what goes on being left. -/
def afterBody : Except Leave Unit → Except Leave Bool
  | .ok () => .ok true
  | .error (.broken (depth + 2)) => .error (.broken (depth + 1))
  | .error (.broken _) => .ok false
  | .error (.continued (depth + 2)) => .error (.continued (depth + 1))
  | .error (.continued _) => .ok true
  | .error leave => .error leave

namespace Act

def setStatus (status : Nat) : Act Unit := modify ({ · with status })

def spend : Act Unit := do
  let state ← get
  match state.world.budget with
  | 0 => throw .late
  | budget + 1 => set { state with world := { state.world with budget } }

def await (ended : List Ended) : Act Unit := do
  wait (ended.foldl (fun time process => max time process.finish) 0)
  let inOrder := ended.mergeSort fun a b => a.finish ≤ b.finish
  inOrder.forM fun process =>
    match Builtin.obituary? process.exit with
    | some text => discard (print 2 text)
    | none => pure ()
  Builtin.notice none

def newStream : Act (Nat × Nat) := do
  let state ← get
  let (world, stream) := state.world.newStream
  let (world, number) := world.add (.stream stream)
  set { state with world }
  return (stream, number)

/-- All chunks of a stream that is done with, and when it was released. -/
def collect (stream number : Nat) : Act (List Chunk × Nat) := do
  let state ← get
  let world := state.world
  set { state with world := (world.close number).dropStream stream }
  return ((world.printout stream).inOrder, world.released stream)

def inputText : Act (List Char) := do
  let state ← get
  match state.descriptors.lookup 0 with
  | none => return []
  | some number => do
    let (world, text, time) := state.world.drain number
    set { state with world }
    wait (time.getD world.deadline)
    return withoutZeros text

end Act

namespace State

def leading (descriptor number : Nat) (state : State) : State :=
  { state with descriptors :=
      (descriptor, number) :: state.descriptors.filter (·.1 ≠ descriptor) }

/-- A process in the background, which reads nothing and does not heed interruptions. -/
def inBackground (delay : Nat) (state : State) : State :=
  let (world, number) := state.world.add (.device .null)
  leading 0 number
    { state with world, now := state.now + delay, traps := (2, []) :: (3, []) :: state.traps }

def firstVariables (state : State) : List (String × Variable) :=
  let own (name : String) (value : List Char) : String × Variable :=
    (name, ⟨some value, false, false⟩)
  let given := (state.environment.filter fun (name, _) => isName name.toList).map
    fun (name, value) => (name, ⟨some value, true, false⟩)
  let defaults := [
    own "IFS" defaultSeparators, own "OPTIND" ['1'], own "PATH" Finding.standardPlaces,
    own "PPID" (Decimal.digits state.parent), own "PS1" ['$', ' '], own "PS2" ['>', ' '],
    own "PS4" ['+', ' '], ("PWD", ⟨some state.path, true, false⟩)]
  given ++ defaults.filter fun (name, _) => (given.lookup name).isNone

/-- A shell in place of a process, before it has looked at its words. -/
def fresh (state : State) (name : List Char) : State :=
  { world := state.world
    name
    directory := state.directory
    bindings := state.firstVariables
    descriptors := state.descriptors
    traps := state.traps.filter (·.2.isEmpty)
    now := state.now
    process := state.process
    generation := state.generation + 1
    leader := state.process
    parent := state.parent
    line := 0
    mask := state.mask }

def leaveFunction (before state : State) : State :=
  let frame := state.frames.headD {}
  let state := frame.bindings.foldl
    (fun state (name, entry?) => state.putBack name entry?) state
  { state with
    arguments := before.arguments
    loops := before.loops
    progress := before.progress
    frames := state.frames.tail
    options := frame.options.getD state.options }

end State

structure Start where
  /-- Whether it runs a text that is given to it. -/
  isText : Bool := false
  words : List (List Char) := []

namespace Start

/-- The settings as they are shown before any is made, when all of them count as made. -/
def allSettings (on : Bool) : List (List Char) :=
  if on then
    "Current option settings".toList :: optionTable.map fun (name, _) =>
      name.toList ++ List.replicate (16 - name.length) ' ' ++ "on".toList
  else optionTable.map fun (name, _) => "set -o ".toList ++ name.toList

def letters (on : Bool) : List Char → Start → Act Start
  | [], start => return start
  | c :: rest, start => do
    match c with
    | 'c' => letters on rest { start with isText := true }
    | 'l' => letters on rest start
    | 'o' =>
      match start.words with
      | [] => do
        let _ ← Act.outputLines (allSettings on)
        letters on rest start
      | name :: words => do
        Builtin.setNamedOption name on
        letters on rest { start with words }
    | c => do
      Builtin.setOption c on
      letters on rest start

def read : Nat → Start → Act Start
  | 0, start => return start
  | fuel + 1, start => do
    match start.words with
    | ['-'] :: words | ['-', '-'] :: words => return { start with words }
    | ('-' :: flags) :: words => do read fuel (← letters true flags { start with words })
    | ('+' :: flags) :: words => do read fuel (← letters false flags { start with words })
    | _ => return start

end Start

def scriptText (path : List Char) : Act (List Char) := do
  let state ← get
  if let .ok (.device (.opened source)) := state.world.disk.find state.directory (toText path) then
    match ← Program.remainder source with
    | (.ok text, _) => return withoutZeros text
    | (.error error, _) => Target.refused .reading path error
  match state.world.disk.read state.directory (toText path) with
  | .ok content => return withoutZeros (ofBytes content)
  | .error .isDirectory => return []
  | .error error => Target.refused .reading path error

/-- The file that `.` is given by name, which may be in one of the places of programs. -/
def sourcePath (path : List Char) : Act (List Char) := do
  if path.contains '/' then return path
  let state ← get
  let places := Finding.places ((state.value? "PATH").getD [])
  match places.find? fun place =>
      match state.world.disk.find state.directory (toText (place ++ path)) with
      | .ok (.file _) => true
      | _ => false with
  | some place => return place ++ path
  | none => Act.fail (path ++ ": not found".toList)

mutual

def run : Nat → Mode → Command → Act Unit
  | 0, _, _ => throw .late
  | fuel + 1, mode, command => do
    heed fuel
    unless (← get).has 'n' do
      match command with
      | .simple line assignments words redirects => do
        simple fuel mode line assignments words redirects
        settle fuel mode
      | .each line name items body => do
        modify ({ · with line })
        let items ← Word.allFields (capture fuel) items
        each fuel mode.inner name items body 0
        heed fuel
      | .whilst success condition body => do
        whilst fuel mode.inner success condition body 0
        heed fuel
      | .choose line subject arms => do
        modify ({ · with line })
        let subject ← Word.text (capture fuel) .front subject
        choose fuel mode subject arms
        heed fuel
      | .branch condition body otherwise => do
        runAll fuel { tested := true } condition
        if (← get).status = 0 then runAll fuel mode body
        else if otherwise.isEmpty then Act.setStatus 0
        else runAll fuel mode otherwise
        heed fuel
      | .both first second => do
        run fuel { tested := true } first
        if (← get).status = 0 then run fuel mode second
      | .either first second => do
        run fuel { tested := true } first
        if (← get).status ≠ 0 then run fuel mode second
      | .negated command => do
        run fuel { tested := true } command
        Act.setStatus (if (← get).status = 0 then 1 else 0)
      | .piped commands => do
        let ended ← pipeline fuel mode id commands none
        Act.await ended
        Act.setStatus ((ended.getLast?.map fun last => Builtin.statusOf last.exit).getD 0)
        settle fuel mode
      | .group body => runAll fuel mode body
      | .apart line body redirects => do
        modify ({ · with line })
        let targets ← Target.expandAll (capture fuel) redirects
        apart fuel mode targets body
        settle fuel mode
      | .redirected line command redirects => do
        modify ({ · with line })
        redirected fuel mode command redirects
        settle fuel mode
      | .background line command => do
        modify ({ · with line })
        background fuel command
      | .function name body => do
        modify fun state => { state with
          functions := (name, body) :: state.functions.filter (·.1 ≠ name), status := 0 }

/-- Runs commands one after the other; only the last of them may be the last of the process. -/
def runAll : Nat → Mode → List Command → Act Unit
  | 0, _, _ => throw .late
  | _, _, [] => return
  | fuel + 1, mode, [command] => run fuel mode command
  | fuel + 1, mode, command :: commands => do
    run fuel mode.inner command
    runAll fuel mode commands

/-- Ends a script that heeds failures if a command has failed that nobody tests. -/
def settle : Nat → Mode → Act Unit
  | 0, _ => throw .late
  | fuel + 1, mode => do
    heed fuel
    let state ← get
    if state.has 'e' && !mode.tested && state.status ≠ 0 then throw .exit

def heed : Nat → Act Unit
  | 0 => throw .late
  | fuel + 1 => do
    let state ← get
    unless state.world.sent.isEmpty do Act.wait state.now
    let state ← get
    match state.pending with
    | [] => return
    | signal :: pending => do
      set { state with pending }
      match state.trap? signal with
      | none | some [] => heed fuel
      | some action => do
        let status := state.status
        modify ({ · with trapped := some (state.trapped.getD status) })
        let result ← Act.attempt (runText fuel {} action)
        match result with
        | .ok _ | .error (.returned false) | .error (.broken _) | .error (.continued _) =>
          modify ({ · with status, trapped := state.trapped })
        | _ => modify ({ · with trapped := state.trapped })
        match result with
        | .ok _ => heed fuel
        | .error leave => throw leave

/-- A loop through items; `status` is that of the last body. -/
def each : Nat → Mode → String → List (List Char) → List Command → (status : Nat) → Act Unit
  | 0, _, _, _, _, _ => throw .late
  | _, _, _, [], _, status => Act.setStatus status
  | fuel + 1, mode, name, item :: items, body, _ => do
    Act.assign name item
    if ← inLoop fuel (runAll fuel mode body) then
      each fuel mode name items body (← get).status

def whilst : Nat → Mode → (success : Bool) → (condition body : List Command) →
    (status : Nat) → Act Unit
  | 0, _, _, _, _, _ => throw .late
  | fuel + 1, mode, success, condition, body, status => do
    Act.spend
    let before := (← get).loops
    modify ({ · with loops := before + 1 })
    let result ← Act.attempt (runAll fuel { tested := true } condition)
    modify ({ · with loops := before })
    match result, afterBody result with
    | _, .error leave => throw leave
    | _, .ok false => Act.setStatus status
    | .error _, .ok true => whilst fuel mode success condition body status
    | .ok (), .ok true =>
      if ((← get).status = 0) ≠ success then Act.setStatus status
      else if ← inLoop fuel (runAll fuel mode body) then
        whilst fuel mode success condition body (← get).status

def inLoop : Nat → Act Unit → Act Bool
  | 0, _ => throw .late
  | _ + 1, body => do
    let before := (← get).loops
    modify ({ · with loops := before + 1 })
    let result ← Act.attempt body
    modify ({ · with loops := before })
    match afterBody result with
    | .ok more => return more
    | .error leave => throw leave

def choose : Nat → Mode → List Char → List (List Word × List Command) → Act Unit
  | 0, _, _, _ => throw .late
  | _, _, _, [] => Act.setStatus 0
  | fuel + 1, mode, subject, (patterns, body) :: arms => do
    if ← fits fuel subject patterns then
      if body.isEmpty then Act.setStatus 0 else runAll fuel mode body
    else choose fuel mode subject arms

def fits : Nat → List Char → List Word → Act Bool
  | 0, _, _ => throw .late
  | _, _, [] => return false
  | fuel + 1, subject, pattern :: patterns => do
    let wilds ← Word.pattern (capture fuel) pattern
    if Wild.accepts wilds subject then return true
    fits fuel subject patterns

def redirected : Nat → Mode → Command → List Redirect → Act Unit
  | 0, _, _, _ => throw .late
  | fuel + 1, mode, command, redirects => do
    let targets ← Target.expandAll (capture fuel) redirects
    let before ← get
    match ← Act.attempt (Target.applyAll (capture fuel) targets) with
    | .ok () => do
      let result ← Act.attempt (run fuel mode.inner command)
      Target.undo before targets
      match result with
      | .ok () => return
      | .error leave => throw leave
    | .error .error => Target.undo before targets
    | .error leave => throw leave

/-- Runs commands in a process of their own, which may be the one that is there already. -/
def apart : Nat → Mode → List Target → List Command → Act Unit
  | 0, _, _, _ => throw .late
  | fuel + 1, mode, targets, body => do
    let whole : Act Unit := do
      Target.applyAll (capture fuel) targets
      runAll fuel { mode with final := true } body
    if mode.final && !(← get).hasTraps then
      whole
      throw .exit
    else
      let ended ← fork fuel id whole
      Act.await [ended]
      Act.setStatus (Builtin.statusOf ended.exit)

def background : Nat → Command → Act Unit
  | 0, _ => throw .late
  | fuel + 1, command => do
    let ended ← match command with
      | .piped commands => pipeline fuel {} (State.inBackground 1000) commands none
      | .redirected _ command redirects => do
        let targets ← Target.expandAll (capture fuel) redirects
        let ended ← fork fuel (State.inBackground 1000) do
          Target.applyAll (capture fuel) targets
          run fuel { final := true } command
        pure [ended]
      | command => do
        let ended ← fork fuel (State.inBackground 1000) (run fuel { final := true } command)
        pure [ended]
    modify fun state =>
      let tasks := ended.map fun process =>
        ⟨process.process, process.finish, process.exit, false⟩
      let number := ((List.range (state.jobs.length + 1)).find? fun number =>
        !state.jobs.any (·.number = number + 1)).getD 0
      { state with
        world := { state.world with tasks := tasks ++ state.world.tasks }
        jobs := ⟨number + 1, ended.map (·.process)⟩ :: state.jobs
        background := ended.getLast?.map (·.process)
        status := 0 }

/-- Runs commands joined by pipes, all from the same time on. What the ones in front print is
what the next read. -/
def pipeline : Nat → Mode → (State → State) → List Command → (input? : Option Nat) →
    Act (List Ended)
  | 0, _, _, _, _ => throw .late
  | _, _, _, [], _ => return []
  | fuel + 1, mode, change, command :: commands, input? => do
    let reading (state : State) : State := match input? with
      | some number => (change state).leading 0 number
      | none => change state
    let action := run fuel { mode with final := true } command
    if commands.isEmpty then return [← fork fuel reading action]
    let half := (← get).world.budget / 2
    let limits := [1000, 20000].filter (· < half) ++ [half]
    feeding fuel mode change reading action commands limits

/-- Runs what is in front of a pipe, with a limit to what it does, and the commands behind it. If
those ask for more than it has printed by then, the next limit is tried; one that is never asked
for more is stopped. -/
def feeding : Nat → Mode → (change reading : State → State) → Act Unit → List Command →
    (limits : List Nat) → Act (List Ended)
  | 0, _, _, _, _, _, _ => throw .late
  | _, _, _, _, _, _, [] => throw .late
  | fuel + 1, mode, change, reading, action, commands, limit :: limits => do
    let before ← get
    let (stream, number) ← Act.newStream
    modify fun state => { state with world := { state.world with budget := limit } }
    let ended ← fork fuel (fun state => (reading state).leading 1 number) action
    let state ← get
    let exhausted := state.world.budget = 0
    set { state with world := { state.world with
      budget := state.world.budget + (before.world.budget - limit) } }
    let (chunks, released) ← Act.collect stream number
    let time := max ended.finish released
    let state ← get
    let left := chunks.map fun chunk => (chunk.time, chunk.content)
    let (world, number) := state.world.add
      (.inflow left (if time < state.world.deadline then some time else none))
    set { state with world }
    let others ← pipeline fuel mode change commands (some number)
    modify fun state => { state with world := state.world.close number }
    let finish := others.foldl (fun time process => max time process.finish) 0
    if exhausted && state.world.deadline ≤ finish && !limits.isEmpty then
      set before
      feeding fuel mode change reading action commands limits
    else
      let refused? := chunks.find? fun chunk =>
        chunk.process = ended.process && finish < chunk.time
      let stopped? := match refused? with
        | some chunk => if before.trap? Host.Signal.pipe = some [] then none else some chunk.time
        | none => if exhausted && !chunks.isEmpty then some finish else none
      match stopped? with
      | none => return ended :: others
      | some time => do
        modify fun after =>
          let world := after.world.stopAll ended.process (state.world.nextProcess - 1) time
          { after with world }
        return { ended with exit := .killed Host.Signal.pipe, finish := time } :: others

def capture : Nat → List Command → Act (List Char)
  | 0, _ => throw .late
  | fuel + 1, commands => do
    if commands.isEmpty then return []
    let (stream, number) ← Act.newStream
    let ended ← fork fuel (State.leading 1 number) (runAll fuel { final := true } commands)
    let (chunks, released) ← Act.collect stream number
    Act.wait released
    Act.await [ended]
    modify ({ · with inner := Builtin.statusOf ended.exit })
    let text := withoutZeros (chunks.flatMap (·.content))
    return (text.reverse.dropWhile (· = '\n')).reverse

/-- Starts a process with what the script knows, and runs it to its end. -/
def fork : Nat → (State → State) → Act Unit → Act Ended
  | 0, _, _ => throw .late
  | fuel + 1, change, action => do
    let parent ← get
    let (world, process) := parent.world.newProcess parent.process parent.now
    let child := change
      { parent with
        world
        process
        parent := parent.process
        traps := parent.traps.filter (·.2.isEmpty)
        pending := []
        jobs := []
        trapped := none }
    match conclude fuel action child with
    | (result, after) => do
      let (exit, finish) := match result with
        | .ok exit => (exit, after.now)
        | .error _ => (.exited 0, after.world.deadline)
      let world := after.world.finish process
      let world :=
        if parent.now < finish then world.hold process finish (after.descriptors.map (·.2))
        else world
      set { parent with world }
      return ⟨process, exit, finish⟩

/-- Runs a process to its end, and what is to be done then. -/
def conclude : Nat → Act Unit → Act Host.Exit
  | 0, _ => throw .late
  | fuel + 1, action => do
    let result ← Act.attempt action
    match result with
    | .error (.replaced exit) => return exit
    | .error (.killed signal) => return (← get).world.killed signal
    | .error .late => throw .late
    | _ => do
      let state ← get
      match state.trap? 0 with
      | none | some [] => return .exited (state.status % 256)
      | some action => do
        set { state with
          traps := state.traps.filter (·.1 ≠ 0), trapped := some state.status, loops := 0 }
        match ← Act.attempt (runText fuel {} action) with
        | .error (.replaced exit) => return exit
        | .error (.killed signal) => return (← get).world.killed signal
        | .error .late => throw .late
        | .error .exit | .error .error => return .exited ((← get).status % 256)
        | _ => return .exited (state.status % 256)

def simple : Nat → Mode → (line : Nat) → (assignments words : List Word) → List Redirect →
    Act Unit
  | 0, _, _, _, _, _ => throw .late
  | fuel + 1, mode, line, assignments, words, redirects => do
    Act.spend
    modify ({ · with line, inner := 0 })
    let call ← Call.ofWords (capture fuel) words
    let targets ← Target.expandAll (capture fuel) redirects
    let before ← get
    match ← Act.attempt (Target.applyAll (capture fuel) targets) with
    | .error .error => do
      Target.undo before targets
      if call.isSpecial then throw .error
    | .error leave => throw leave
    | .ok () => do
      let kept := call.kept (← get) assignments
      let result ← Act.attempt do
        let assigned ← call.assignAll (capture fuel) assignments
        call.trace (capture fuel) assigned (before.descriptors.lookup 2)
        perform fuel mode call
      match result with
      | .error (.replaced exit) => throw (.replaced exit)
      | result => do
        if call.keepsRedirections then
          modify fun state =>
            let world := state.world.hold state.process state.now (before.descriptors.map (·.2))
            { state with world }
        else Target.undo before targets
        modify fun state => kept.foldl
          (fun state (name, entry?) => state.putBack name entry?) state
        match result with
        | .ok () => return
        | .error leave => throw leave

def perform : Nat → Mode → Call → Act Unit
  | 0, _, _ => throw .late
  | fuel + 1, mode, call => do
    match call.meaning with
    | .nothing => modify fun state => { state with status := state.inner }
    | .function body => do
      let before ← get
      if 1000 ≤ before.frames.length then
        Act.fail "Maximum function recursion depth (1000) reached".toList
      set { before with
        arguments := call.fields.tail, loops := 0, progress := {}, frames := {} :: before.frames }
      let result ← Act.attempt (run fuel mode.inner body)
      modify (State.leaveFunction before)
      match result with
      | .ok () | .error (.returned _) => return
      | .error leave => throw leave
    | .builtin name => do
      let outer := (← get).command
      modify ({ · with command := some name.toList })
      let result ← Act.attempt (builtin fuel mode call name call.fields.tail)
      modify ({ · with command := outer })
      match result with
      | .ok status => Act.setStatus status
      | .error .error => if call.isSpecial then throw .error
      | .error leave => throw leave
    | .program => do
      let name := call.fields.headD []
      match Finding.named (← get) call.standard name with
      | .none text status => do
        Act.complain (name ++ ": ".toList ++ text.toList)
        Act.setStatus status
      | .program program _ => do
        if mode.final && !(← get).hasTraps then replace fuel program call.fields
        let ended ← fork fuel id (start fuel program call.fields)
        Act.await [ended]
        Act.setStatus (Builtin.statusOf ended.exit)

def builtin : Nat → Mode → Call → String → List (List Char) → Act Nat
  | 0, _, _, _, _ => throw .late
  | fuel + 1, mode, call, name, words => do
    match name with
    | "eval" =>
      if words.isEmpty then return 0
      else runText fuel { tested := mode.tested } ([' '].intercalate words)
    | "." => do
      match ← Builtin.operands words with
      | [] => return 0
      | path :: _ => do
        let path ← sourcePath path
        let text ← scriptText path
        modify ({ · with command := some path })
        source fuel text
    | "exec" =>
      match words with
      | [] => return 0
      | name :: _ => do
        match Finding.named (← get) call.standard name with
        | .none text status => do
          Act.complain (name ++ ": ".toList ++ text.toList)
          Act.setStatus status
          throw .exit
        | .program program _ => do
          replace fuel program words
          return 0
    | "command" => do
      let (options, words) ← Builtin.options ['p', 'v', 'V'] [] words.length words
      let standard := options.any (·.1 = 'p')
      match (options.filter (·.1 ≠ 'p')), words with
      | [], _ | _, [] => return 0
      | options, name :: _ => do
        let (text, status) := Lookup.describe (← get) standard (options.any (·.1 = 'V')) name
        let _ ← Act.output text
        return status
    | "type" => do
      let (text, status) := Lookup.describeAll (← get) false true words
      let _ ← Act.output text
      return status
    | "hash" => do
      let (_, words) ← Builtin.options ['r'] [] words.length words
      words.foldlM (fun status word => do
        match Finding.named (← get) false word with
        | .none _ _ =>
          if (Builtin.kind? (String.ofList word)).isSome then return status
          Act.complain (word ++ ": not found".toList)
          return 1
        | .program _ _ => return status) 0
    | name =>
      match Builtin.find? name with
      | some builtin => builtin words
      | none => return 127

/-- Lets a program take the place of the shell. -/
def replace : Nat → (program : String) → List (List Char) → Act Unit
  | 0, _, _ => throw .late
  | fuel + 1, program, words => do
    modify fun state => { state with traps := state.traps.filter (·.2.isEmpty) }
    let exit ← conclude fuel (start fuel program words)
    throw (.replaced exit)

def start : Nat → (program : String) → List (List Char) → Act Unit
  | 0, _, _ => throw .late
  | fuel + 1, program, words => do
    match program with
    | "sh" | "dash" => shell fuel words
    | name =>
      match Program.find? name with
      | some program => Act.setStatus (← program words.tail)
      | none => Act.setStatus 127

def shell : Nat → List (List Char) → Act Unit
  | 0, _ => throw .late
  | fuel + 1, words => do
    modify (·.fresh (words.headD []))
    if 300 < (← get).generation then throw .late
    let start ← Start.read (words.length + 1) { words := words.tail }
    if start.words.isEmpty then
      if start.isText then Act.fail "-c requires an argument".toList
      modify (·.set 's' true)
    let reads := (← get).has 's'
    let (texts, words) :=
      if start.isText then (start.words.take 1, start.words.drop 1) else ([], start.words)
    let file? := if start.isText || reads then none else words.head?
    let script ← match file? with
      | some path => pure (some (← scriptText path))
      | none => pure none
    let named := (start.isText && !words.isEmpty) || file?.isSome
    modify fun state => { state with
      name := if named then words.headD [] else state.name
      arguments := if named then words.tail else words
      line := 1
      status := 0 }
    texts.forM fun text => discard (runText fuel { final := !reads } text)
    match script with
    | some text => discard (lines fuel {} true false { rest := text })
    | none =>
      if reads then discard (lines fuel {} true false { rest := ← Act.inputText })

/-- Runs the commands of a file; leaving a function there leaves the file. -/
def source : Nat → List Char → Act Nat
  | 0, _ => throw .late
  | fuel + 1, text => do
    let result ← Act.attempt (runText fuel {} text)
    match result with
    | .ok status => return status
    | .error (.returned _) => return (← get).status
    | .error leave => throw leave

/-- Runs a text; the status is zero if it has no commands. -/
def runText : Nat → Mode → List Char → Act Nat
  | 0, _, _ => throw .late
  | fuel + 1, mode, text => do
    let before ← get
    if 1000 ≤ before.depth then throw (.killed 11)
    set { before with depth := before.depth + 1 }
    let result ← Act.attempt (lines fuel mode false false { rest := text })
    modify ({ · with depth := before.depth, reached := before.reached })
    let status := (← get).status
    match result with
    | .ok ran => return if ran then status else 0
    | .error leave => throw leave

/-- Runs a script line by line; says whether it had any commands. Where the script is `shown`,
its lines can be printed as they are read. -/
def lines : Nat → Mode → (shown ran : Bool) → Cursor → Act Bool
  | 0, _, _, _, _ => throw .late
  | fuel + 1, mode, shown, ran, cursor => do
    let state ← get
    let echo (rest : List Char) : Act Unit := do
      if shown && state.has 'v' then
        discard (Act.print 2 (cursor.rest.take (cursor.rest.length - rest.length)))
    match Script.next { cursor with aliases := state.aliases } with
    | .nothing => do
      echo []
      return ran
    | .wrong error => do
      echo []
      modify ({ · with line := error.line })
      Act.fail ("Syntax error: ".toList ++ error.text.toList)
    | .commands commands ended after => do
      echo after.rest
      modify ({ · with reached := after.line })
      runAll fuel { mode with final := mode.final && ended } commands
      let ran := ran || !commands.isEmpty
      if ended then return ran
      lines fuel mode shown ran after

end

end DeviceMatrix.Shell

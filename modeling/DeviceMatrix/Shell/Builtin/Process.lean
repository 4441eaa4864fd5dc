import DeviceMatrix.Shell.Builtin.Basic

/-! Commands about signals and processes. -/
namespace DeviceMatrix.Shell

namespace Builtin

open Act

def signalName (number : Nat) : String :=
  match Host.Signal.named? number with
  | some signal => if number = 16 then "16" else signal.name
  | none =>
    if number = 0 then "EXIT"
    else if number = 34 then "RTMIN"
    else if number = 64 then "RTMAX"
    else if number < 34 then Decimal.ofNat number
    else if number < 50 then "RTMIN+" ++ Decimal.ofNat (number - 34)
    else "RTMAX-" ++ Decimal.ofNat (64 - number)

def signal? (least : Nat) (word : List Char) : Option Nat :=
  match Decimal.natural? word with
  | some number => if number < Host.Signal.limit then some number else none
  | none =>
    (List.range Host.Signal.limit).find? fun number =>
      least ≤ number ∧ (signalName number).toList.map Char.toLower = word.map Char.toLower

def trap : Builtin := fun words => do
  let words ← operands words
  match words with
  | [] =>
    let state ← get
    let set := (List.range Host.Signal.limit).filterMap fun signal =>
      (state.trap? signal).map (signal, ·)
    outputLines (set.map fun (signal, action) =>
      "trap -- ".toList ++ singleQuoted action ++ [' '] ++ (signalName signal).toList)
  | first :: rest =>
    let (action?, signals) :=
      if rest.isEmpty ∨ (Decimal.natural? first).any (· < Host.Signal.limit) then (none, words)
      else (if first = ['-'] then none else some first, rest)
    setTraps action? signals
where
  setTraps (action? : Option (List Char)) : List (List Char) → Act Nat
    | [] => return 0
    | word :: words => do
      match signal? 0 word with
      | none => do
        let _ ← print 2 ("trap: ".toList ++ word ++ ": bad trap\n".toList)
        return 1
      | some signal => do
        modify fun state =>
          let others := state.traps.filter (·.1 ≠ signal)
          { state with traps := (action?.map (signal, ·)).toList ++ others }
        setTraps action? words

/-- Whether a process runs, as far as those who started it know. -/
def isRunning (state : State) (process : Nat) : Bool :=
  process = state.parent || state.world.running.contains process ||
    state.world.tasks.any fun task => task.process = process && !task.noticed

/-- Sends a signal to a process. One in the background has done its work already; what it does
after a signal that ends it is taken back. -/
def send (signal process : Nat) : Act Unit := do
  let state ← get
  match state.world.tasks.find? (·.process = process) with
  | none =>
    let sending : Sending := ⟨process, signal, state.now⟩
    set { state with world := { state.world with sent := state.world.sent ++ [sending] } }
    wait state.now
  | some task =>
    if task.finish ≤ state.now || signal = 2 || signal = 3 then return
    let change (finish : Nat) (exit : Host.Exit) : World :=
      { state.world with tasks := state.world.tasks.map fun other =>
          if other.process = process then { task with finish, exit } else other }
    match Host.Signal.effect signal with
    | .nothing => return
    | .stops => set { state with world := change state.world.deadline task.exit }
    | .ends =>
      set { state with
        world := (change state.now (state.world.killed signal)).stop process state.now }

def jobs? (word : List Char) (state : State) : Option Job :=
  match word with
  | ['%', '%'] | ['%', '+'] | ['%'] => state.jobs.head?
  | ['%', '-'] => state.jobs[1]?
  | '%' :: digits => (Decimal.natural? digits).bind fun number =>
    state.jobs.find? (·.number = number)
  | _ => none

def job (word : List Char) : Act Job := do
  match jobs? word (← get) with
  | some job => return job
  | none => fail ("No such job: ".toList ++ word)

def killUsage : List Char :=
  ("Usage: kill [-s sigspec | -signum | -sigspec] [pid | job]... or\n" ++
    "kill -l [exitstatus]").toList

def killOptions (words : List (List Char)) :
    Act (Option Nat × Bool × List (List Char)) := do
  match words with
  | ('-' :: option) :: rest =>
    match signal? 1 option with
    | some signal => return (some signal, false, rest)
    | none => do
      let (options, rest) ← options ['l', 's'] ['s'] words.length words
      let signal? ← (options.filter (·.1 = 's')).foldlM (fun _ (_, name) =>
        match signal? 1 name with
        | some signal => pure (some signal)
        | none => fail ("invalid signal number or name: ".toList ++ name)) none
      return (signal?, options.any (·.1 = 'l'), rest)
  | words => return (none, false, words)

def killAll (signal : Nat) : List (List Char) → Act Nat
  | [] => return 0
  | word :: words => do
    let target? ← match word with
      | '%' :: _ => do
        let _ ← job word
        pure none
      | '-' :: rest => do
        let _ ← number rest
        pure none
      | word => pure (some (← number word))
    let state ← get
    let target? := if target? = some 0 then some state.leader else target?
    match target?.filter (isRunning state) with
    | some process => do
      if signal ≠ 0 then send signal process
      killAll signal words
    | none => do
      complain "No such process\n".toList
      let _ ← killAll signal words
      return 1

def kill : Builtin := fun words => do
  if words.isEmpty then fail killUsage
  let (signal?, lists, words) ← killOptions words
  if lists then
    match signal?, words with
    | some _, _ => fail killUsage
    | none, [] =>
      outputLines (['0'] :: (List.range Host.Signal.limit).tail.map fun number =>
        (signalName number).toList)
    | none, word :: _ => do
      let number ← number word
      let signal := if 128 < number then number - 128 else number
      if signal = 0 ∨ Host.Signal.limit ≤ signal then
        fail ("invalid signal number or exit status: ".toList ++ word)
      outputLines [(signalName signal).toList]
  else if words.isEmpty then fail killUsage
  else killAll (signal?.getD 15) words

def statusOf : Host.Exit → Nat
  | .exited code => code
  | .killed signal _ => 128 + signal

def taskOf (state : State) (process : Nat) : Option Task :=
  state.world.tasks.find? (·.process = process)

def finishOf (state : State) (job : Job) : Nat :=
  (job.processes.filterMap (taskOf state)).foldl (fun time task => max time task.finish) 0

def obituary? : Host.Exit → Option (List Char)
  | .killed signal dumped =>
    if signal = 2 ∨ signal = Host.Signal.pipe then none
    else some ((Host.Signal.describe signal ++ Host.Signal.dumpNote dumped).toList ++ ['\n'])
  | .exited _ => none

/-- Takes notice of the processes in the background that have ended. Those of a job that is
waited for are spoken of. -/
def notice (job? : Option Job) : Act Unit := do
  let state ← get
  unless state.jobs.isEmpty do
    let own := state.jobs.flatMap (·.processes)
    let isNew (task : Task) : Bool :=
      own.contains task.process && !task.noticed && task.finish ≤ state.now
    let news := (state.world.tasks.filter isNew).mergeSort fun a b => a.finish ≤ b.finish
    let tasks := state.world.tasks.map fun task =>
      if isNew task then { task with noticed := true } else task
    set { state with world := { state.world with tasks } }
    news.forM fun task => do
      if job?.any (·.processes.contains task.process) then
        match obituary? task.exit with
        | some text => discard (print 2 text)
        | none => pure ()

def disturbance? (state : State) (last : Nat) : Option Sending :=
  let own := state.world.sent.filter fun sending =>
    sending.process = state.process && sending.time ≤ last &&
      (state.trap? sending.signal).any (!·.isEmpty)
  (own.mergeSort fun a b => a.time ≤ b.time).head?

/-- Waits up to a time; a signal with a trap ends that, with its status. -/
def waitUntil (time : Nat) : Act (Option Nat) := do
  match disturbance? (← get) time with
  | some sending => do
    wait sending.time
    if time ≤ sending.time then return none
    return some (128 + sending.signal)
  | none => do
    wait time
    return none

def waitAll : List (List Char) → (status : Nat) → Act Nat
  | [], status => return status
  | word :: words, _ => do
    let state ← get
    let job? ← match word with
      | '%' :: _ => do pure (some (← job word))
      | word => do
        let process ← number word
        pure (state.jobs.find? (·.processes.getLast? = some process))
    match job? with
    | none => waitAll words 127
    | some job => do
      match ← waitUntil (finishOf state job) with
      | some status => return status
      | none => do
        notice (some job)
        let exit := (job.processes.getLast?.bind (taskOf state)).map (·.exit)
        waitAll words ((exit.map statusOf).getD 127)

def waiting : Builtin := fun words => do
  let words ← operands words
  let state ← get
  if words.isEmpty then
    match ← waitUntil (state.jobs.foldl (fun time job => max time (finishOf state job)) 0) with
    | some status => return status
    | none => do
      notice none
      return 0
  else waitAll words 127

def shownJob (state : State) (identified : Bool) (job : Job) : List Char :=
  let mark :=
    if state.jobs.head? = some job then '+' else if state.jobs[1]? = some job then '-' else ' '
  let exit : Option Host.Exit :=
    (job.processes.getLast?.bind (taskOf state)).map (·.exit)
  let condition :=
    if state.now < finishOf state job then "Running".toList
    else match exit with
      | some (.exited 0) | none => "Done".toList
      | some (.exited code) => "Done(".toList ++ Decimal.digits code ++ [')']
      | some (.killed signal dumped) =>
        (Host.Signal.describe signal ++ Host.Signal.dumpNote dumped).toList
  let process := Decimal.digits (job.processes.headD 0)
  let head := ['['] ++ Decimal.digits job.number ++ "] ".toList ++ [mark, ' '] ++
    (if identified then process ++ [' '] else []) ++ condition
  head ++ List.replicate (max 1 (33 - head.length)) ' ' ++
    (List.replicate (job.processes.length - 1) " | ".toList).flatten

def listJob (options : List Char) (status : Nat) (job : Job) : Act Nat := do
  let state ← get
  if options.getLast? = some 'p' then
    return max status (← outputLines [Decimal.digits (job.processes.headD 0)])
  else
    let printed ← outputLines [shownJob state (options.contains 'l') job]
    if finishOf state job ≤ state.now then
      modify fun state => { state with jobs := state.jobs.filter (·.number ≠ job.number) }
    return max status printed

def listJobs : Builtin := fun words => do
  let (options, words) ← options ['l', 'p'] [] words.length words
  let letters := options.map (·.1)
  if words.isEmpty then (← get).jobs.foldlM (listJob letters) 0
  else words.foldlM (fun status word => do listJob letters status (← job word)) 0

def resume : Builtin := fun words => do
  let words ← operands words
  match words with
  | [] =>
    if (← get).jobs.isEmpty then fail "No current job".toList
    else fail "job not created under job control".toList
  | word :: _ => do
    let _ ← job word
    fail ("job ".toList ++ word ++ " not created under job control".toList)

/-- Limits are neither kept nor known. -/
def limit : Builtin := fun words => do
  let letters := "HSatfdscmlpnvwr".toList
  let (_, words) ← options letters [] words.length words
  match words with
  | [] => outputLines ["unlimited".toList]
  | [word] =>
    if word = "unlimited".toList || (Decimal.natural? word).isSome then return 0
    else fail "bad number".toList
  | _ => fail "too many arguments".toList

def times : Builtin := fun _ =>
  outputLines [[' '].intercalate [zero, zero], [' '].intercalate [zero, zero]]
where
  zero : List Char := "0m0.000000s".toList

end Builtin
end DeviceMatrix.Shell

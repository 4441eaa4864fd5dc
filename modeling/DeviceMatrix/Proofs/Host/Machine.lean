import DeviceMatrix.Host.Machine
import DeviceMatrix.Proofs.Host.Disk

/-! Actions on a machine whose programs may be any. What an action does to the machine is put
together from its parts: most only read it, or leave it as it is whatever they do beside it. -/
namespace DeviceMatrix.Host.Machine

variable {σ α β : Type}

/-- A machine with other programs. They may change it, and keep a state of their own beside it. -/
def hostWith (home : String) (programs : Invocation → StateT σ (StateM Machine) RunResult) :
    Host (StateT σ (StateM Machine)) where
  home := home
  read path := (host home).read path
  present path := (host home).present path
  makeDirectories path := (host home).makeDirectories path
  write path content := (host home).write path content
  run := programs

/-- The action from a state of the programs and a machine. -/
def play (action : StateT σ (StateM Machine) α) (world : σ) (machine : Machine) :
    (α × σ) × Machine :=
  (action.run world).run machine

theorem play_pure (value : α) (world : σ) (machine : Machine) :
    play (pure value) world machine = ((value, world), machine) := rfl

theorem play_bind (action : StateT σ (StateM Machine) α)
    (next : α → StateT σ (StateM Machine) β) (world : σ) (machine : Machine) :
    play (action >>= next) world machine =
      play (next (play action world machine).1.1) (play action world machine).1.2
        (play action world machine).2 := rfl

variable {machine : Machine}

/-- On the machine the action gives the value, and changes nothing at all. -/
def Reads (machine : Machine) (action : StateT σ (StateM Machine) α) (value : α) : Prop :=
  ∀ world, play action world machine = ((value, world), machine)

theorem Reads.pure (value : α) :
    Reads machine (Pure.pure value : StateT σ (StateM Machine) α) value :=
  fun _ => rfl

theorem Reads.bind {action : StateT σ (StateM Machine) α} {next : α → StateT σ (StateM Machine) β}
    {first : α} {second : β} (begins : Reads machine action first)
    (goesOn : Reads machine (next first) second) : Reads machine (action >>= next) second := by
  intro world
  rw [play_bind, begins world]
  exact goesOn world

/-- The action only reads a value of which this holds. -/
def Gives (machine : Machine) (action : StateT σ (StateM Machine) α) (post : α → Prop) : Prop :=
  ∃ value, Reads machine action value ∧ post value

theorem Gives.pure {post : α → Prop} {value : α} (holds : post value) :
    Gives machine (Pure.pure value : StateT σ (StateM Machine) α) post :=
  ⟨value, .pure value, holds⟩

theorem Reads.gives {action : StateT σ (StateM Machine) α}
    {next : α → StateT σ (StateM Machine) β} {first : α} {post : β → Prop}
    (begins : Reads machine action first) (goesOn : Gives machine (next first) post) :
    Gives machine (action >>= next) post := by
  obtain ⟨value, reads, holds⟩ := goesOn
  exact ⟨value, begins.bind reads, holds⟩

/-- The action leaves the machine as it is. -/
def Still (machine : Machine) (action : StateT σ (StateM Machine) α) : Prop :=
  ∀ world, (play action world machine).2 = machine

theorem Still.pure (value : α) : Still machine (Pure.pure value : StateT σ (StateM Machine) α) :=
  fun _ => rfl

theorem Still.bind {action : StateT σ (StateM Machine) α} {next : α → StateT σ (StateM Machine) β}
    (begins : Still machine action) (goesOn : ∀ value, Still machine (next value)) :
    Still machine (action >>= next) := by
  intro world
  rw [play_bind, begins world]
  exact goesOn _ _

theorem Reads.still {action : StateT σ (StateM Machine) α} {value : α}
    (reads : Reads machine action value) : Still machine action :=
  fun world => by rw [reads world]

section

variable (home : String) (programs : Invocation → StateT σ (StateM Machine) RunResult)
  (path : String)

theorem reads_present :
    Reads machine ((hostWith home programs).present path)
      (machine.disk.find machine.directory path).isOk :=
  fun _ => rfl

theorem play_makeDirectories (world : σ) (machine : Machine) :
    play ((hostWith home programs).makeDirectories path) world machine =
      (((Disk.ensureAll machine.directory (path.length + 1) path machine.disk).2, world),
        { machine with
          disk := (Disk.ensureAll machine.directory (path.length + 1) path machine.disk).1 }) :=
  rfl

theorem run_write (content : List UInt8) (machine : Machine) :
    ((host home).write path content).run machine =
      match machine.disk.find machine.directory path with
      | .ok (.device (.opened descriptor)) =>
        (.ok (), { machine with written := machine.written ++ [(descriptor, content)] })
      | _ => match machine.disk.write machine.directory path content with
        | .ok disk => (.ok (), { machine with disk })
        | .error error => (.error error, machine) := by
  unfold host
  dsimp only [StateT.run, bind, StateT.bind, get, getThe, MonadStateOf.get, StateT.get, pure]
  generalize machine.disk.find machine.directory path = found
  generalize machine.disk.write machine.directory path content = written
  match found with
  | .error _ | .ok (.file _) | .ok .directory | .ok (.program _) => cases written <;> rfl
  | .ok (.device device) => cases device <;> cases written <;> rfl

theorem play_write (content : List UInt8) (world : σ) (machine : Machine) :
    let ran := play ((hostWith home programs).write path content) world machine
    (ran.1.1 = .ok () ∧ ran.2.directory = machine.directory ∧
      ∃ location, machine.disk.Wrote machine.directory path content location ran.2.disk) ∨
    ∃ error, ran.1.1 = .error error ∧ ran.2 = machine := by
  intro ran
  obtain ⟨value, after⟩ : ran.1.1 = (((host home).write path content).run machine).1 ∧
      ran.2 = (((host home).write path content).run machine).2 := ⟨rfl, rfl⟩
  rw [value, after, run_write]
  split
  · next found => exact .inl ⟨rfl, rfl, Disk.wrote_of_find found⟩
  · split
    · next written => exact .inl ⟨rfl, rfl, Disk.wrote_of_write written⟩
    · exact .inr ⟨_, rfl, rfl⟩

end
end DeviceMatrix.Host.Machine

import DeviceMatrix.Proofs.Host.Machine
import DeviceMatrix.Report.Write

/-! What writing a report does to a machine. The report comes to its file, and the directories
that it stands in are made first if they are missing; nothing else is touched. -/
namespace DeviceMatrix.Report

open Host (Disk Invocation Location Machine RunResult)
open Host.Machine (hostWith play play_bind)

/-- The report is in its file, or it failed to come there and the file is left as it was.
Directories that it stands in may have been made in both cases. -/
structure Put (machine : Machine) (path content : String) (failed : Prop) (later : Machine) :
    Prop where
  place : later.directory = machine.directory
  placed : ∃ made, machine.disk.Made machine.directory (Host.Path.Above path) made ∧
    ((∃ location, made.Wrote machine.directory path (Text.encode content) location later.disk) ∨
      failed ∧ later.disk = made)

/-- The location is where the file stands now, or a directory above it that was missing. -/
def Touches (machine : Machine) (path content : String) (later : Machine) (location : Location) :
    Prop :=
  (later.disk.locate later.directory path = .ok location ∧
    later.disk.node? location = some (.file (Text.encode content))) ∨
  (machine.disk.node? location = none ∧ later.disk.node? location = some .directory ∧
    ∃ ancestor, Host.Path.Above path ancestor ∧
      later.disk.locate later.directory ancestor = .ok location)

/-- The file holds the report, unless a device stands at its path. -/
def Holds (machine : Machine) (path content : String) : Prop :=
  machine.disk.read machine.directory path = .ok (Text.encode content) ∨
    ∃ device, machine.disk.find machine.directory path = .ok (.device device)

namespace Put

variable {machine later : Machine} {path content : String} {failed : Prop}

theorem imp {refused : Prop} (put : Put machine path content failed later)
    (follows : failed → refused) : Put machine path content refused later := by
  obtain ⟨made, above, placed⟩ := put.placed
  exact ⟨put.place, made, above, placed.imp_right fun ⟨fails, same⟩ => ⟨follows fails, same⟩⟩

theorem touches (put : Put machine path content failed later) {location : Location}
    (changed : later.disk.node? location ≠ machine.disk.node? location) :
    Touches machine path content later location := by
  obtain ⟨place, made, above, ⟨target, wrote⟩ | ⟨-, same⟩⟩ := put
  · rw [Touches, place]
    by_cases early : made.node? location = machine.disk.node? location
    · obtain ⟨rfl, holds⟩ := wrote.changes (early ▸ changed)
      exact .inl ⟨wrote.keeps.locate wrote.located, holds⟩
    · obtain ⟨free, standing, ancestor, reached, located⟩ := above.changes location early
      exact .inr ⟨free, wrote.keeps location standing, ancestor, reached,
        wrote.keeps.locate located⟩
  · rw [Touches, place, same]
    exact .inr (above.changes location (same ▸ changed))

theorem holds (put : Put machine path content failed later) (succeeded : ¬failed) :
    Holds later path content := by
  obtain ⟨place, made, -, ⟨target, wrote⟩ | ⟨fails, -⟩⟩ := put
  · rw [Holds, place]
    exact wrote.read_later
  · exact absurd fails succeeded

end Put

section

variable {σ : Type} (home : String)
  (programs : Invocation → StateT σ (StateM Machine) RunResult)

theorem play_prepare (path : String) (world : σ) (machine : Machine) :
    let ran := play (prepare (hostWith home programs) path) world machine
    ran.2.directory = machine.directory ∧
      machine.disk.Made machine.directory (Host.Path.Above path) ran.2.disk := by
  intro ran
  have started : ran = play (prepare (hostWith home programs) path) world machine := rfl
  have still (same : ran.2 = machine) : ran.2.directory = machine.directory ∧
      machine.disk.Made machine.directory (Host.Path.Above path) ran.2.disk := by
    rw [same]
    exact ⟨rfl, .refl _⟩
  -- `unfold` would prove an equation for `prepare` first, which takes seconds.
  delta prepare at started
  cases stands : Host.Path.parent? path with
  | none => exact still (by simp only [started, stands]; rfl)
  | some parent =>
    simp only [stands] at started
    by_cases unnamed : parent = ""
    · exact still (by rw [started, if_pos unnamed]; rfl)
    rw [if_neg unnamed, play_bind, Host.Machine.reads_present home programs parent world] at started
    by_cases present : (machine.disk.find machine.directory parent).isOk
    · exact still (by rw [started, if_pos present]; rfl)
    have made : ran.2 = { machine with
        disk := (Disk.ensureAll machine.directory (parent.length + 1) parent machine.disk).1 } := by
      rw [started, if_neg present, play_bind, Host.Machine.play_makeDirectories]
      split <;> rfl
    rw [made]
    exact ⟨rfl, (Disk.made_ensureAll _ _ parent _).mono fun _ above => .head' stands above⟩

theorem play_write (path content : String) (world : σ) (machine : Machine) :
    let ran := play (write (hostWith home programs) path content) world machine
    Put machine path content (∃ error, ran.1.1.value = .error error) ran.2 := by
  intro ran
  obtain ⟨place, made⟩ := play_prepare home programs path world machine
  have started : ran = _ := play_bind (prepare (hostWith home programs) path) _ world machine
  generalize play (prepare (hostWith home programs) path) world machine = prepared at *
  obtain ⟨⟨ready, beside⟩, between⟩ := prepared
  cases ready with
  | error error =>
    rw [started]
    exact ⟨place, _, made, .inr ⟨⟨error, rfl⟩, rfl⟩⟩
  | ok ready =>
    have settled : between.directory = machine.directory := place
    have tried := Host.Machine.play_write home programs path (Text.encode content) beside between
    rw [settled] at tried
    simp only [play_bind] at started
    generalize play ((hostWith home programs).write path (Text.encode content)) beside between =
      written at *
    obtain ⟨⟨result, world⟩, later⟩ := written
    obtain ⟨rfl, same, location, wrote⟩ | ⟨error, rfl, rfl⟩ := tried
    · rw [started]
      exact ⟨same, _, made, .inl ⟨location, wrote⟩⟩
    · rw [started]
      exact ⟨place, _, made, .inr ⟨⟨_, rfl⟩, rfl⟩⟩

end
end DeviceMatrix.Report

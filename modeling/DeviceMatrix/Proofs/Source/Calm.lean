import DeviceMatrix.Proofs.Config.Load
import DeviceMatrix.Proofs.Source.Invocation
import DeviceMatrix.Summary.Fetch

/-! Sources whose requests leave the machine as it is, and what is read from them. Those of a
recording do nothing at all; those of a helper do what its program does. -/
namespace DeviceMatrix

open Host (Invocation Machine RunResult)
open Host.Machine (Gives Reads Still hostWith play play_bind)

section

variable {σ : Type} {machine : Machine}

/-- No request to the source changes the machine. -/
structure Calm (machine : Machine) (source : StepSource (StateT σ (StateM Machine))) : Prop where
  list : ∀ handle token pageSize, Still machine (source.list handle token pageSize)
  rollup : ∀ handle, Still machine (source.rollup handle)

theorem calm_recording (name : String) (recording : Recording) :
    Calm machine (recording.source name : StepSource (StateT σ (StateM Machine))) :=
  ⟨fun _ _ _ => .pure _, fun _ => .pure _⟩

variable (home : String) (programs : Invocation → StateT σ (StateM Machine) RunResult)

/-- The program of a helper changes nothing on the machine, whatever it is asked. -/
def Quiet (machine : Machine) (helper : Helper) : Prop :=
  ∀ word options, Still machine (programs (helper.started word options))

theorem calm_helper {helper : Helper} (quiet : Quiet programs machine helper) :
    Calm machine (helper.source (hostWith home programs)) := by
  have invoked {α : Type} (codec : Json.Codec α) (word : String) (options : List String) :
      Still machine (helper.invoke (hostWith home programs) codec (word :: options)) := by
    rw [Helper.invoke_cons]
    exact (quiet word options).bind fun _ => .pure _
  exact ⟨fun _ _ _ => invoked _ _ _, fun _ => (invoked _ _ _).bind fun _ => .pure _⟩

theorem gives_recording (path : String) :
    Gives machine
      (Recording.load (hostWith home programs) path :
        StateT σ (StateM Machine) (Reply (StepSource (StateT σ (StateM Machine)))))
      fun loaded => ∀ source, loaded.value = .ok source →
        ∃ name recording, source = Recording.source name recording := by
  refine (reads_readText home programs machine _).gives ?_
  split
  · exact .pure nofun
  · split
    · exact .pure nofun
    · exact .pure fun source same => ⟨_, _, (Except.ok.inj same).symm⟩

end

namespace Fetcher

variable {σ : Type} {machine : Machine} {fetcher : Fetcher (StateT σ (StateM Machine))}
  (calm : Calm machine fetcher.source)

include calm

theorem still_listFrom (limit : Nat) :
    ∀ token, Still machine (fetcher.listFrom limit token) := by
  induction limit with
  | zero => exact fun _ => .pure _
  | succ limit ih =>
    intro token
    unfold listFrom
    refine (calm.list _ _ _).bind fun reply => ?_
    split
    · exact .pure _
    · dsimp only
      split
      · exact .pure _
      · exact (ih _).bind fun _ => .pure _

theorem still_rollup : Still machine fetcher.rollup := by
  unfold rollup
  refine (calm.rollup _).bind fun reply => ?_
  split <;> exact .pure _

theorem play_summary (limit : Nat) (world : σ) :
    let ran := play (fetcher.summary limit) world machine
    ran.2 = machine ∧ ran.1.1.value =
      (play (fetcher.steps limit) world machine).1.1.value.map fun steps =>
        (DeviceMatrix.summarize steps).value := by
  intro ran
  have still : (play (fetcher.steps limit) world machine).2 = machine :=
    still_listFrom calm limit none world
  simp only [ran, summary, play_bind, still]
  generalize (play (fetcher.steps limit) world machine).1.1 = listed
  cases value : listed.value with
  | error error => exact ⟨rfl, rfl⟩
  | ok steps => exact ⟨rfl, rfl⟩

end Fetcher
end DeviceMatrix

import DeviceMatrix.Cli.Run
import DeviceMatrix.Proofs.Config.Load

/-! What writing a configuration to start from does to a machine. It is written only where
nothing is, and then it is one that can be loaded. -/
namespace DeviceMatrix.Cli

open Host (Invocation Machine RunResult)
open Host.Machine (hostWith play play_bind)

set_option maxRecDepth 4000 in
theorem kind_of_template :
    (Config.parse (template helperSection).toList).toOption.map (·.source.kind) = some "command" ∧
      (Config.parse (template fixtureSection).toList).toOption.map (·.source.kind) =
        some "fixture" := by
  -- The characters of a long text are given by its literal, for the kernel decodes bytes slowly.
  have helper : helperSection.toList = _ := String.toList_ofList
  have fixture : fixtureSection.toList = _ := String.toList_ofList
  unfold template
  constructor
  · rewrite [String.toList_append, String.toList_append, helper, String.toList_ofList]
    decide +kernel
  · rewrite [String.toList_append, String.toList_append, fixture, String.toList_ofList]
    decide +kernel

theorem parse_template {source text : String} (known : sourceSection? source = some text) :
    (source = "command" ∨ source = "fixture") ∧
      ∃ config, Config.parse (template text).toList = .ok config ∧ config.source.kind = source := by
  have accepted {kind : String}
      (kinds : (Config.parse (template text).toList).toOption.map (·.source.kind) = some kind) :
      ∃ config, Config.parse (template text).toList = .ok config ∧ config.source.kind = kind := by
    cases parsed : Config.parse (template text).toList with
    | error problem => simp [parsed, Except.toOption] at kinds
    | ok config => exact ⟨config, rfl, by simpa [parsed, Except.toOption] using kinds⟩
  unfold sourceSection? at known
  split at known
  · exact ⟨.inl rfl, accepted (Option.some.inj known ▸ kind_of_template.1)⟩
  · exact ⟨.inr rfl, accepted (Option.some.inj known ▸ kind_of_template.2)⟩
  · contradiction

variable {σ : Type} (home : String)
  (programs : Invocation → StateT σ (StateM Machine) RunResult) (path : String)

theorem play_init (source : String) (world : σ) (machine : Machine) :
    let ran := play (init (hostWith home programs) path source) world machine
    (ran.2 = machine ∧ ran.1.1.exit = 1) ∨
    ∃ text, sourceSection? source = some text ∧
      (machine.disk.find machine.directory path).isOk = false ∧
      ran.2.directory = machine.directory ∧ ∃ location,
        machine.disk.Wrote machine.directory path (Text.encode (template text)) location
          ran.2.disk := by
  intro ran
  cases known : sourceSection? source with
  | none =>
    simp only [ran, init, known]
    exact .inl ⟨rfl, rfl⟩
  | some text =>
    simp only [ran, init, known]
    rw [play_bind, Host.Machine.reads_present home programs path world]
    cases present : (machine.disk.find machine.directory path).isOk with
    | true => exact .inl ⟨rfl, rfl⟩
    | false =>
      rw [if_neg Bool.false_ne_true, play_bind]
      obtain ⟨written, place, wrote⟩ | ⟨error, refused, same⟩ :=
        Host.Machine.play_write home programs path (Text.encode (template text)) world machine
      · rw [written]
        exact .inr ⟨text, rfl, rfl, place, wrote⟩
      · rw [refused, same]
        exact .inl ⟨rfl, rfl⟩

theorem present_of_init (source : String) (world : σ) (machine : Machine) :
    let ran := play (init (hostWith home programs) path source) world machine
    ran.1.1.exit = 0 → (ran.2.disk.find ran.2.directory path).isOk := by
  intro ran succeeded
  obtain ⟨-, refused⟩ | ⟨text, -, -, place, location, wrote⟩ :=
    play_init home programs path source world machine
  · rw [succeeded] at refused
    contradiction
  · rw [place]
    obtain found | ⟨device, -, found⟩ := wrote.find_later
    all_goals
      rw [found]
      rfl

theorem init_of_present {machine : Machine} (source : String) (world : σ)
    (present : (machine.disk.find machine.directory path).isOk) :
    (play (init (hostWith home programs) path source) world machine).2 = machine := by
  obtain ⟨same, -⟩ | ⟨text, -, absent, -⟩ := play_init home programs path source world machine
  · exact same
  · rw [present] at absent
    contradiction

end DeviceMatrix.Cli

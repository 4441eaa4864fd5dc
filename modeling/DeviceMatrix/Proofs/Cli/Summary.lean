import DeviceMatrix.Cli.Run
import DeviceMatrix.Proofs.Report.Write
import DeviceMatrix.Proofs.Source.Calm

/-! What the actions that ask a source do to a machine. Up to the report nothing changes: the
configuration is read, the source is opened and asked, and every failure on the way ends the
action there. -/
namespace DeviceMatrix

open Host (Invocation Machine RunResult)
open Host.Machine (Gives Reads Still hostWith play play_bind play_pure)

/-- A configuration with another execution, if one is given. -/
def Config.executing (config : Config) (execution : Option String) : Config :=
  { config with
    handle := { config.handle with execution := execution.getD config.handle.execution } }

namespace Cli

def fetcherOf {m : Type → Type} (config : Config) (source : StepSource m)
    (pageSize : Option PageSize) (execution : Option String) : Fetcher m where
  source := source
  handle := (config.executing execution).handle
  pageSize := (pageSize.getD config.pageSize).val

/-- The report on steps that a configuration asks for. In a file it has no colors. -/
def reportOn (config : Config) (format : Option Report.Format) (steps : List Step) : String :=
  Report.render (summarize steps).value (format.getD config.format) config.suite false

variable {σ : Type}

/-- A summary came as far as its report: the configuration was loaded, its source was opened, and
every page was answered. -/
structure Reached (host : Host (StateT σ (StateM Machine))) (machine : Machine) (world : σ)
    (path : String) (pageSize : Option PageSize) (execution : Option String) (config : Config)
    (source : StepSource (StateT σ (StateM Machine))) (steps : List Step) : Prop where
  loaded : machine.configAt path = .ok config
  opened : Gives machine (openSource host config.source) (·.value = .ok source)
  listed : (play (fetcherOf config source pageSize execution).steps world machine).1.1.value =
    .ok steps

variable (home : String) (programs : Invocation → StateT σ (StateM Machine) RunResult)
  {machine : Machine}

/-- If the configuration at the path names a helper, that changes nothing on the machine. -/
def Harmless (machine : Machine) (path : String) : Prop :=
  ∀ config helper, machine.configAt path = .ok config → config.source = .helper helper →
    Quiet programs machine helper

theorem gives_openSource (source : SourceConfig)
    (quiet : ∀ helper, source = .helper helper → Quiet programs machine helper) :
    Gives machine (openSource (hostWith home programs) source) fun opened =>
      ∀ steps, opened.value = .ok steps → Calm machine steps := by
  cases source with
  | helper helper =>
    refine .pure fun steps same => ?_
    rw [← Except.ok.inj same]
    exact calm_helper home programs (quiet helper rfl)
  | fixture path =>
    obtain ⟨loaded, reads, recorded⟩ := gives_recording home programs path
    refine reads.gives (.pure fun steps same => ?_)
    cases value : loaded.value with
    | error error => simp [Logged.map, value] at same
    | ok source =>
      obtain ⟨name, recording, rfl⟩ := recorded source value
      obtain rfl : Recording.source name recording = steps := by
        simpa [Logged.map, value] using same
      exact calm_recording name recording

theorem play_deliver (file report : String) (world : σ) (machine : Machine) :
    let ran := play (deliver (hostWith home programs) (some file) report) world machine
    Report.Put machine file report (∃ error, ran.1.1.value = .error error) ran.2 := by
  intro ran
  have put := Report.play_write home programs file report world machine
  have started : ran = _ :=
    play_bind (Report.write (hostWith home programs) file report) _ world machine
  generalize play (Report.write (hostWith home programs) file report) world machine = wrote at *
  rw [started]
  refine put.imp fun ⟨error, fails⟩ => ⟨.ofWrite error, ?_⟩
  simp only [play_pure, Logged.map, fails]

section

variable (setting : Setting) (path : String) (format : Option Report.Format)
  (pageSize : Option PageSize) (execution : Option String)
  (harmless : Harmless programs machine path)

include harmless

theorem gives_prepare :
    Gives machine (prepare (hostWith home programs) (openSource (hostWith home programs)) path
        execution) fun prepared => ∀ config source, prepared.value = .ok (config, source) →
      ∃ loaded, machine.configAt path = .ok loaded ∧ config = loaded.executing execution ∧
        Gives machine (openSource (hostWith home programs) loaded.source) (·.value = .ok source) ∧
        Calm machine source := by
  have reads := reads_load home programs machine path
  cases found : machine.configAt path with
  | error error =>
    rw [found] at reads
    exact reads.gives (.pure nofun)
  | ok loaded =>
    rw [found] at reads
    obtain ⟨opened, opening, calm⟩ := gives_openSource home programs loaded.source
      fun helper named => harmless loaded helper found named
    refine reads.gives ?_
    cases execution
    all_goals
      refine opening.gives ?_
      cases value : opened.value with
      | error error => exact .pure nofun
      | ok steps =>
        refine .pure fun config source same => ?_
        obtain ⟨rfl, rfl⟩ := Prod.mk.inj (Except.ok.inj same)
        exact ⟨loaded, rfl, rfl, ⟨opened, opening, value⟩, calm steps value⟩

theorem play_summary (output : Option String) (world : σ) :
    let host := hostWith home programs
    let ran := play (summary setting host (openSource host) path format output pageSize execution)
      world machine
    let failed := ∃ error, ran.1.1.value = .error error
    (ran.2 = machine ∧ (output.isSome → failed)) ∨
    ∃ file config source steps, output = some file ∧
      Reached host machine world path pageSize execution config source steps ∧
      Report.Put machine file (reportOn config format steps) failed ran.2 := by
  intro host ran failed
  obtain ⟨prepared, preparing, reached⟩ := gives_prepare home programs path execution harmless
  have started : ran = _ :=
    play_bind (prepare host (openSource host) path execution) _ world machine
  rw [preparing world] at started
  clear_value ran
  cases value : prepared.value with
  | error error =>
    simp only [value] at started
    exact .inl ⟨congrArg Prod.snd started, fun _ => ⟨error, congrArg (·.1.1.value) started⟩⟩
  | ok found =>
    obtain ⟨config, source⟩ := found
    obtain ⟨loaded, known, rfl, opened, calm⟩ := reached config source value
    have calm : Calm machine (fetcherOf loaded source pageSize execution).source := calm
    obtain ⟨still, rows⟩ := Fetcher.play_summary calm Fetcher.requestLimit world
    have reading : ({
      source, handle := (loaded.executing execution).handle
      pageSize := (pageSize.getD (loaded.executing execution).pageSize).val } : Fetcher _) =
        fetcherOf loaded source pageSize execution := rfl
    simp only [value] at started
    rw [play_bind, reading] at started
    generalize play (fetcherOf loaded source pageSize execution).summary world machine =
      fetched at started still rows
    cases listed :
      (play (fetcherOf loaded source pageSize execution).steps world machine).1.1.value with
    | error error =>
      rw [listed] at rows
      simp only [rows, Except.map, still] at started
      exact .inl ⟨congrArg Prod.snd started,
        fun _ => ⟨.ofSummary error, congrArg (·.1.1.value) started⟩⟩
    | ok steps =>
      rw [listed] at rows
      simp only [rows, Except.map, still] at started
      cases output with
      | none => exact .inl ⟨congrArg Prod.snd started, nofun⟩
      | some file =>
        refine .inr ⟨file, loaded, source, steps, rfl, ⟨known, opened, listed⟩, ?_⟩
        have put := play_deliver home programs file (reportOn loaded format steps) fetched.1.2
          machine
        have spelled : Report.render (summarize steps).value
            (format.getD (loaded.executing execution).format) (loaded.executing execution).suite
            ((some file).isNone && setting.color) = reportOn loaded format steps := rfl
        rw [spelled, play_bind] at started
        generalize play (deliver host (some file) (reportOn loaded format steps)) fetched.1.2
          machine = delivered at started put
        rw [started]
        refine put.imp fun ⟨error, fails⟩ => ⟨error, ?_⟩
        simp only [started, play_pure, Logged.after, Logged.map, fails]

theorem still_rollup : Still machine (rollup (hostWith home programs)
    (openSource (hostWith home programs)) path execution) := by
  intro world
  obtain ⟨prepared, preparing, reached⟩ := gives_prepare home programs path execution harmless
  rw [rollup, play_bind, preparing world]
  cases value : prepared.value with
  | error error => rfl
  | ok found =>
    obtain ⟨config, source⟩ := found
    obtain ⟨loaded, -, rfl, -, calm⟩ := reached config source value
    have calm : Calm machine
      ({ source, handle := (loaded.executing execution).handle } : Fetcher _).source := calm
    exact (Fetcher.still_rollup calm).bind (fun _ => .pure _) world

end
end Cli
end DeviceMatrix

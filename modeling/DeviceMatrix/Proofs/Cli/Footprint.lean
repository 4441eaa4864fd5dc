import DeviceMatrix.Proofs.Cli.Init
import DeviceMatrix.Proofs.Cli.Summary

/-! What a run may change on the disk. A location differs afterwards only for one of two reasons:
the run has made a configuration to start from, or it has put a report into a file. Every other
run, and every run that fails earlier, leaves the whole disk as it was. -/
namespace DeviceMatrix.Cli

open Host (Invocation Location Machine RunResult)
open Host.Machine (Still hostWith play play_bind)

/-- Why a location differs after a run. -/
inductive Change {σ : Type} (host : Host (StateT σ (StateM Machine))) (arguments : Arguments)
    (world : σ) (machine later : Machine) (location : Location) : Prop
  /-- Where nothing was stands a new configuration. -/
  | founded {source : String} {config : Config} (asked : arguments.action = .init source)
      (known : source = "command" ∨ source = "fixture")
      (absent : machine.disk.node? location = none)
      (located : later.disk.locate later.directory arguments.config = .ok location)
      (accepted : later.configAt arguments.config = .ok config)
      (kind : config.source.kind = source)
  /-- There stands the report of a summary, or a directory that was missing above it. -/
  | reported {format : Option Report.Format} {file : String} {pageSize : Option PageSize}
      {execution : Option String} {config : Config}
      {source : StepSource (StateT σ (StateM Machine))} {steps : List Step}
      (asked : arguments.action = .summary format (some file) pageSize execution)
      (reached : Reached host machine world arguments.config pageSize execution config source steps)
      (touched : Report.Touches machine file (reportOn config format steps) later location)

theorem exit_conclude {verbose : Bool} {attempt : Attempt (Nat × String)}
    (failed : ∃ error, attempt.value = .error error) : (conclude verbose attempt).exit = 1 := by
  obtain ⟨error, fails⟩ := failed
  simp only [conclude, fails]

section

variable {σ : Type} (setting : Setting) (home : String)
  (programs : Invocation → StateT σ (StateM Machine) RunResult) (world : σ) {machine : Machine}
  {arguments : Arguments}

theorem play_perform_summary {format : Option Report.Format} {output : Option String}
    {pageSize : Option PageSize} {execution : Option String}
    (asked : arguments.action = .summary format output pageSize execution) :
    let host := hostWith home programs
    let attempt := play (summary setting host (openSource host) arguments.config format output
      pageSize execution) world machine
    play (perform setting host (openSource host) arguments) world machine =
      ((conclude arguments.verbose attempt.1.1, attempt.1.2), attempt.2) := by
  simp only [perform, asked]
  rfl

theorem play_perform_init {source : String} (asked : arguments.action = .init source) :
    let host := hostWith home programs
    play (perform setting host (openSource host) arguments) world machine =
      play (init host arguments.config source) world machine := by
  simp only [perform, asked]

theorem still_validate (path : String) :
    Still machine (validate (hostWith home programs) path) := by
  refine (reads_load home programs machine path).still.bind fun loaded => ?_
  split <;> exact .pure _

variable (harmless : Harmless programs machine arguments.config)

include harmless

/-- One case for each action: two of them change nothing. -/
theorem change_of_perform {location : Location} :
    let host := hostWith home programs
    let ran := play (perform setting host (openSource host) arguments) world machine
    ran.2.disk.node? location ≠ machine.disk.node? location →
      Change host arguments world machine ran.2 location := by
  intro host ran changed
  cases asked : arguments.action with
  | summary format output pageSize execution =>
    have acted : ran = _ := play_perform_summary setting home programs world asked
    rw [acted] at changed ⊢
    obtain ⟨same, -⟩ | ⟨file, config, source, steps, rfl, reached, put⟩ := play_summary home
      programs setting arguments.config format pageSize execution harmless output world
    · exact absurd (by rw [same]) changed
    · exact .reported asked reached (put.touches changed)
  | rollup execution =>
    have still : ran.2 = machine := by
      simp only [ran, perform, asked]
      exact (still_rollup home programs arguments.config execution harmless).bind
        (fun _ => .pure _) world
    exact absurd (by rw [still]) changed
  | validate =>
    have still : ran.2 = machine := by
      simp only [ran, perform, asked]
      exact still_validate home programs arguments.config world
    exact absurd (by rw [still]) changed
  | init source =>
    have acted : ran = _ := play_perform_init setting home programs world asked
    rw [acted] at changed ⊢
    obtain ⟨same, -⟩ | ⟨text, written, absent, place, target, wrote⟩ :=
      play_init home programs arguments.config source world machine
    · exact absurd (by rw [same]) changed
    · obtain ⟨rfl, -⟩ := wrote.changes changed
      obtain ⟨free, read⟩ := wrote.fresh absent
      obtain ⟨known, config, parsed, kind⟩ := parse_template written
      rw [← place] at read
      exact .founded asked known free (place ▸ wrote.keeps.locate wrote.located)
        (configAt_of_read read parsed) kind

theorem holds_of_perform {format : Option Report.Format} {file : String}
    {pageSize : Option PageSize} {execution : Option String}
    (asked : arguments.action = .summary format (some file) pageSize execution) :
    let host := hostWith home programs
    let ran := play (perform setting host (openSource host) arguments) world machine
    ran.1.1.exit = 0 → ∃ config source steps,
      Reached host machine world arguments.config pageSize execution config source steps ∧
      Report.Holds ran.2 file (reportOn config format steps) := by
  intro host ran succeeded
  have acted : ran = _ := play_perform_summary setting home programs world asked
  rw [acted] at succeeded ⊢
  obtain ⟨-, failed⟩ | ⟨other, config, source, steps, same, reached, put⟩ := play_summary home
    programs setting arguments.config format pageSize execution harmless (some file) world
  · rw [exit_conclude (failed rfl)] at succeeded
    contradiction
  · obtain rfl := Option.some.inj same
    refine ⟨config, source, steps, reached, put.holds fun failed => ?_⟩
    rw [exit_conclude failed] at succeeded
    contradiction

end

/-- With a helper that changes nothing itself, or none, a location differs after a run only if the
run made a configuration where nothing was, which can be loaded, or if it put a report into a file
after everything that leads to the report succeeded. A summary that did not fail left exactly the
report in its file, unless that is a device. Making a configuration again changes nothing. -/
theorem run_changes_only {σ : Type} (setting : Setting) (home : String)
    (programs : Invocation → StateT σ (StateM Machine) RunResult) (words : List String)
    (world : σ) (machine : Machine)
    (harmless : ∀ arguments, parse words = .ok arguments →
      Harmless programs machine arguments.config) :
    let host := hostWith home programs
    let ran := play (run setting host words) world machine
    (∀ location, ran.2.disk.node? location ≠ machine.disk.node? location →
      ∃ arguments, parse words = .ok arguments ∧
        Change host arguments world machine ran.2 location) ∧
    (∀ arguments format file pageSize execution, parse words = .ok arguments →
      arguments.action = .summary format (some file) pageSize execution → ran.1.1.exit = 0 →
      ∃ config source steps,
        Reached host machine world arguments.config pageSize execution config source steps ∧
        Report.Holds ran.2 file (reportOn config format steps)) ∧
    ∀ arguments source, parse words = .ok arguments → arguments.action = .init source →
      ran.1.1.exit = 0 → ∀ (τ : Type) (setting : Setting) (home : String)
        (programs : Invocation → StateT τ (StateM Machine) RunResult) (words : List String)
        (world : τ) again source, parse words = .ok again → again.config = arguments.config →
        again.action = .init source →
        (play (run setting (hostWith home programs) words) world ran.2).2 = ran.2 := by
  intro host ran
  cases parsed : parse words with
  | error stop =>
    have still : ran.2 = machine := by
      simp only [ran, run, parsed]
      cases stop <;> rfl
    have refused (arguments : Arguments) : Except.error stop ≠ .ok arguments := nofun
    exact ⟨fun _ changed => absurd (by rw [still]) changed,
      fun arguments _ _ _ _ same => absurd same (refused arguments),
      fun arguments _ same => absurd same (refused arguments)⟩
  | ok arguments =>
    have acted : ran = play (perform setting host (openSource host) arguments) world machine := by
      simp only [ran, run, parsed]
    rw [acted]
    have harmless := harmless arguments parsed
    refine ⟨fun location changed => ⟨arguments, rfl, ?_⟩, ?_, ?_⟩
    · exact change_of_perform setting home programs world harmless changed
    · rintro _ format file pageSize execution ⟨⟩ asked succeeded
      exact holds_of_perform setting home programs world harmless asked succeeded
    · rintro _ source ⟨⟩ asked succeeded τ setting home others words beside again source reparsed
        config initial
      rw [play_perform_init _ _ _ _ asked] at succeeded ⊢
      have present := present_of_init _ _ _ _ _ _ succeeded
      simp only [run, reparsed]
      rw [play_perform_init _ _ _ _ initial, config]
      exact init_of_present _ _ _ _ _ present

def configText (source : String) : String :=
  "[execution]\nproject = 'p'\nhistory_id = 'h'\nexecution_id = 'e'\n[source]\n" ++ source

/-- A directory with a configuration for a helper and one for a recording, and with the recording,
which has no steps. -/
def desk : Machine where
  disk := { entries := [
    (["w"], .directory),
    (["w", "h.toml"], .file (Text.encode (configText "type = 'command'\ncommand = 'steps'\n"))),
    (["w", "m.toml"], .file (Text.encode (configText "type = 'fixture'\npath = 'r.json'\n"))),
    (["w", "r.json"], .file (Text.encode "\x7b\x7d"))] }
  home := "/w"
  directory := ["w"]

/-- Programs that answer with an empty object, whatever they are asked. -/
def blank (_ : Invocation) : StateT Unit (StateM Machine) RunResult :=
  pure (.finished (.exited 0) (Text.encode "\x7b\x7d") [])

def reportWords : List String := ["-c", "h.toml", "summary", "-o", "out/r.txt"]

def reportRun : (Printed × Unit) × Machine :=
  play (run {} (hostWith "/w" blank) reportWords) () desk

theorem report_of_helper_fills_file :
    ((desk.configAt "h.toml").toOption.map (·.source.kind) = some "command" ∧
      reportRun.1.1.exit = 0 ∧ desk.disk.node? ["w", "out"] = none ∧
      reportRun.2.disk.node? ["w", "out"] = some .directory) ∧
    (∃ config source steps,
      Reached (hostWith "/w" blank) desk () "h.toml" none none config source steps ∧
      Report.Holds reportRun.2 "out/r.txt" (reportOn config none steps)) ∧
    ∃ arguments, parse reportWords = .ok arguments ∧
      Change (hostWith "/w" blank) arguments () desk reportRun.2 ["w", "out"] := by
  have facts : (desk.configAt "h.toml").toOption.map (·.source.kind) = some "command" ∧
      reportRun.1.1.exit = 0 ∧ desk.disk.node? ["w", "out"] = none ∧
      reportRun.2.disk.node? ["w", "out"] = some .directory := by
    decide +kernel
  have parsed : parse reportWords =
      .ok { config := "h.toml", action := .summary none (some "out/r.txt") none none } := by
    decide +kernel
  obtain ⟨changes, holds, -⟩ := run_changes_only {} "/w" blank reportWords () desk
    fun _ _ _ _ _ _ _ _ _ => rfl
  refine ⟨facts, holds _ none "out/r.txt" none none parsed rfl facts.2.1, changes _ ?_⟩
  have made : reportRun.2.disk.node? ["w", "out"] ≠ desk.disk.node? ["w", "out"] := by
    rw [facts.2.2.1, facts.2.2.2]
    nofun
  exact made

/-- A device takes a report and keeps nothing of it, though the summary did not fail. -/
theorem null_device_keeps_no_report :
    let host := Host.Machine.host "/w"
    let ran := (run {} host ["-c", "m.toml", "summary", "-f", "json", "-o", "/dev/null"]).run desk
    let shown := (run {} host ["-c", "m.toml", "summary", "-f", "json"]).run desk
    ran.1.exit = 0 ∧ ran.2.disk.read ran.2.directory "/dev/null" = .ok [] ∧
      shown.1.output = "[]\n" := by
  decide +kernel

end DeviceMatrix.Cli

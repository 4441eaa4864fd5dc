import DeviceMatrix.Proofs.Cli.Footprint
import DeviceMatrix.Proofs.Summary.Evidence

/-! The outcome of a whole execution as the program tells it, in a line and in its exit code. Both
agree with how a step with this outcome is classified: the line gives the reason that is the text
of its details, and the code follows from its label. -/
namespace DeviceMatrix

open Host (Invocation Machine RunResult)
open Host.Machine (Gives hostWith play play_bind)

def Outcome.spelled (outcome : Outcome) : String := (outcome.summary.map (·.name)).getD "unset"

theorem Outcome.spelled_of_read {outcome : Outcome} {summary : OutcomeSummary} {word : String}
    (found : outcome.summary = some summary)
    (read : OutcomeSummary.codec.read (.text (some word)) = .ok summary) :
    outcome.spelled = word := by
  obtain rfl : OutcomeSummary.ofName word = summary := Except.ok.inj read
  rw [spelled, found]
  exact OutcomeSummary.name_ofName word

theorem Outcome.describe_of_flags {outcome : Outcome} (execution : Option TestExecution)
    (flagged : outcome.flags ≠ noFlag) :
    outcome.describe = outcome.spelled ++ " (" ++ outcome.verdict.details execution ++ ")" := by
  cases given : outcome.verdict.reason? with
  | none => exact absurd (reason?_eq_none_iff.1 given) flagged
  | some reason =>
    rw [Verdict.details_of_reason? given, describe]
    simp only [given]
    rfl

theorem Outcome.describe_of_no_flag {outcome : Outcome} (unflagged : outcome.flags = noFlag) :
    outcome.describe = outcome.spelled := by
  rw [describe]
  simp only [reason?_eq_none_iff.2 unflagged]
  rfl

/-- How a run ends that comes to a label: well, badly, or without a verdict. -/
def Label.exitCode : Label → Nat
  | passed | skipped => 0
  | failed => 1
  | inconclusive | unknown => 2

theorem Label.exitCode_eq_zero_iff {label : Label} :
    label.exitCode = 0 ↔ label = .passed ∨ label = .skipped := by
  cases label <;> decide

theorem Label.exitCode_eq_one_iff {label : Label} : label.exitCode = 1 ↔ label = .failed := by
  cases label <;> decide

theorem Label.exitCode_eq_two_iff {label : Label} :
    label.exitCode = 2 ↔ label = .inconclusive ∨ label = .unknown := by
  cases label <;> decide

theorem Outcome.exitCode_eq (outcome : Outcome) :
    (outcome.summary.map (·.exitCode)).getD 2 = outcome.verdict.label.exitCode := by
  rw [verdict]
  cases outcome.summary with
  | none => rfl
  | some summary => cases summary <;> rfl

namespace Cli

variable {σ : Type}

/-- A rollup came to an outcome: the configuration was loaded, its source was opened, and it
answered. -/
structure Answered (host : Host (StateT σ (StateM Machine))) (machine : Machine) (world : σ)
    (path : String) (execution : Option String) (config : Config)
    (source : StepSource (StateT σ (StateM Machine))) (outcome : Outcome) : Prop where
  loaded : machine.configAt path = .ok config
  opened : Gives machine (openSource host config.source) (·.value = .ok source)
  answered : (play (source.rollup (config.executing execution).handle) world machine).1.1.value =
    .ok outcome

variable {home : String} {programs : Invocation → StateT σ (StateM Machine) RunResult}
  {machine : Machine} {world : σ} {path : String} {execution : Option String} {config : Config}
  {source : StepSource (StateT σ (StateM Machine))} {outcome : Outcome}

theorem prepare_of_opened (execution : Option String)
    (loaded : machine.configAt path = .ok config)
    (opened : Gives machine (openSource (hostWith home programs) config.source)
      (·.value = .ok source)) :
    Gives machine (prepare (hostWith home programs) (openSource (hostWith home programs)) path
      execution) (·.value = .ok (config.executing execution, source)) := by
  obtain ⟨opened, opening, value⟩ := opened
  have reads := reads_load home programs machine path
  rw [loaded] at reads
  refine reads.gives ?_
  cases execution
  all_goals
    refine opening.gives ?_
    simp only [value]
    exact .pure rfl

theorem play_rollup
    (answered : Answered (hostWith home programs) machine world path execution config source
      outcome) :
    (play (rollup (hostWith home programs) (openSource (hostWith home programs)) path execution)
      world machine).1.1.value =
        .ok (outcome.verdict.label.exitCode, outcome.describe ++ "\n") := by
  obtain ⟨prepared, preparing, value⟩ :=
    prepare_of_opened execution answered.loaded answered.opened
  have found := answered.answered
  rw [rollup, play_bind, preparing world]
  simp only [value]
  rw [play_bind, Fetcher.rollup, play_bind]
  dsimp only
  generalize play (source.rollup (config.executing execution).handle) world machine = reply at *
  simp only [found]
  rw [← outcome.exitCode_eq]
  rfl

/-- What a rollup leaves: the outcome in a line, and an exit code that tells the label. -/
structure Tells (printed : Printed) (outcome : Outcome) (label : Label) : Prop where
  line : printed.output = outcome.describe ++ "\n"
  zero : printed.exit = 0 ↔ label = .passed ∨ label = .skipped
  one : printed.exit = 1 ↔ label = .failed
  two : printed.exit = 2 ↔ label = .inconclusive ∨ label = .unknown

theorem tells_of_answered {setting : Setting} {words : List String} {arguments : Arguments}
    (parsed : parse words = .ok arguments) (asked : arguments.action = .rollup execution)
    (answered : Answered (hostWith home programs) machine world arguments.config execution config
      source outcome) :
    Tells (play (run setting (hostWith home programs) words) world machine).1.1 outcome
      outcome.verdict.label := by
  have told := play_rollup answered
  have ran : (play (run setting (hostWith home programs) words) world machine).1.1 =
      conclude arguments.verbose (play (rollup (hostWith home programs)
        (openSource (hostWith home programs)) arguments.config execution) world machine).1.1 := by
    simp only [run, parsed, perform, asked]
    rfl
  rw [ran, conclude]
  simp only [told]
  exact ⟨rfl, Label.exitCode_eq_zero_iff, Label.exitCode_eq_one_iff, Label.exitCode_eq_two_iff⟩

/-- A rollup and the classification of a step with the same outcome, whatever else is in that step,
say the same. The line is the word of the outcome as the service spells it; where the record that
belongs to the word has a flag set, and only there, it goes on with the details of the step in
brackets. The exit code is 0 for the labels of success and of steps that were skipped, 1 for
failure and 2 for all others. -/
theorem rollup_agrees_with_classification {outcome : Outcome} {step : Step}
    (carried : step.outcome = some outcome) :
    ∃ label text, step.classify = some (label, text) ∧
      (outcome.summary = none → outcome.spelled = "unset") ∧
      (∀ summary, outcome.summary = some summary →
        OutcomeSummary.codec.write summary = .text outcome.spelled ∧
        ∀ word, OutcomeSummary.codec.read (.text (some word)) = .ok summary →
          outcome.spelled = word) ∧
      (outcome.flags = noFlag → outcome.describe = outcome.spelled) ∧
      (outcome.describe = outcome.spelled ++ " (" ++ text ++ ")" ↔ outcome.flags ≠ noFlag) ∧
      ∀ (σ : Type) (setting : Setting) (home : String)
        (programs : Invocation → StateT σ (StateM Machine) RunResult) (words : List String)
        (world : σ) (machine : Machine) (arguments : Arguments) (execution : Option String)
        (config : Config) (source : StepSource (StateT σ (StateM Machine))),
        parse words = .ok arguments → arguments.action = .rollup execution →
        Answered (hostWith home programs) machine world arguments.config execution config source
          outcome →
        Tells (play (run setting (hostWith home programs) words) world machine).1.1 outcome
          label := by
  refine ⟨_, _, by rw [Step.classify, carried, Option.map_some], ?_, ?_, ?_, ⟨?_, ?_⟩, ?_⟩
  · intro missing
    rw [Outcome.spelled, missing]
    rfl
  · intro summary found
    refine ⟨?_, fun word => Outcome.spelled_of_read found⟩
    rw [Outcome.spelled, found]
    rfl
  · exact Outcome.describe_of_no_flag
  · intro explained unflagged
    rw [Outcome.describe_of_no_flag unflagged] at explained
    have longer := congrArg String.toList explained
    simp at longer
  · exact Outcome.describe_of_flags step.execution
  · intro σ setting home programs words world machine arguments execution config source parsed asked
      answered
    exact tells_of_answered parsed asked answered

/-- Programs that answer with an execution that timed out, and with flags of another word. -/
def timedOut (_ : Invocation) : StateT Unit (StateM Machine) RunResult :=
  pure (.finished (.exited 0) (Text.encode "\x7b\"outcome\": \x7b\"summary\": \"failure\",
    \"failureDetail\": \x7b\"timedOut\": true\x7d,
    \"skippedDetail\": \x7b\"incompatibleDevice\": true\x7d\x7d\x7d") [])

def timedOutStep : Step where
  outcome := some { summary := some .failure, failure := some ⟨false, true, false⟩
                    skipped := some ⟨true, false, false⟩ }
  execution := some ⟨[{ total := some 7, failures := some 2 }]⟩

theorem rollup_of_timeout :
    timedOutStep.classify = some (.failed, "Test timed out") ∧
    let printed :=
      (play (run {} (hostWith "/w" timedOut) ["-c", "h.toml", "rollup"]) () desk).1.1
    printed.output = "failure (Test timed out)\n" ∧ printed.exit = 1 := by
  have classified : timedOutStep.classify = some (.failed, "Test timed out") := by decide
  obtain ⟨label, text, known, -, -, -, -, runs⟩ :=
    rollup_agrees_with_classification (show timedOutStep.outcome = some _ from rfl)
  obtain ⟨rfl, rfl⟩ := Prod.mk.inj (Option.some.inj (classified.symm.trans known))
  have parsed : parse ["-c", "h.toml", "rollup"] =
      .ok { config := "h.toml", action := .rollup none } := by
    decide +kernel
  have loaded : desk.configAt "h.toml" = .ok
      { handle := ⟨"p", "h", "e"⟩, pageSize := Config.defaultPageSize
        source := .helper { command := "steps" }, format := .table, suite := "matrix" } := by
    decide +kernel
  have tells := runs Unit {} "/w" timedOut _ () desk _ none _ _ parsed rfl
    ⟨loaded, .pure rfl, by decide +kernel⟩
  exact ⟨classified, tells.line.trans (by decide), tells.one.2 rfl⟩

end Cli
end DeviceMatrix

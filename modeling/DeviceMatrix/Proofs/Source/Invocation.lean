import DeviceMatrix.Proofs.Shell.Wordless
import DeviceMatrix.Source.Helper

/-! What a request to a helper starts. The word of the protocol stands behind the words of the
command, so that the list of words to run is never empty; a command without words hands the
protocol's own word over as the program. -/
namespace DeviceMatrix

/-- The same system with the programs noted that it is asked to run, latest last. -/
def Host.noted {m : Type → Type} [Monad m] (host : Host m) :
    Host (StateT (List Host.Invocation) m) where
  home := host.home
  read path := host.read path
  present path := host.present path
  makeDirectories path := host.makeDirectories path
  write path content := host.write path content
  run invocation := do
    modify (· ++ [invocation])
    host.run invocation

def Host.bare {m : Type → Type} [Monad m] : Host m where
  home := "/"
  read _ := pure (.error .notFound)
  present _ := pure false
  makeDirectories _ := pure (.error .permissionDenied)
  write _ _ := pure (.error .permissionDenied)
  run _ := pure (.notStarted .notFound)

namespace Helper

/-- The words that a request adds behind the word that names it. -/
def listOptions (handle : ExecutionHandle) (token : Option String) (pageSize : Nat) :
    List String :=
  (listArguments handle token pageSize).tail

/-- The program that a request starts, by the word that names the request and its options. -/
def started (helper : Helper) (word : String) (options : List String) : Host.Invocation :=
  match helper.words with
  | [] => ⟨word, options, helper.directory, helper.timeout⟩
  | program :: own => ⟨program, own ++ word :: options, helper.directory, helper.timeout⟩

theorem words_append_cons (helper : Helper) (word : String) (options : List String) :
    helper.words ++ word :: options =
      (helper.started word options).program :: (helper.started word options).arguments := by
  unfold started
  cases helper.words <;> rfl

theorem started_place (helper : Helper) (word : String) (options : List String) :
    (helper.started word options).directory = helper.directory ∧
      (helper.started word options).timeout = helper.timeout := by
  unfold started
  cases helper.words <;> exact ⟨rfl, rfl⟩

/-- Quotes that stay open make the whole command a word, so that only a wordless one has none. -/
theorem words_eq_nil_iff {helper : Helper} :
    helper.words = [] ↔ Shell.Wordless helper.command.toList := by
  rw [← Shell.words?_eq_nil_iff, words]
  cases Shell.words? helper.command <;> simp

theorem started_of_wordless {helper : Helper} (wordless : Shell.Wordless helper.command.toList)
    (word : String) (options : List String) :
    helper.started word options = ⟨word, options, helper.directory, helper.timeout⟩ := by
  rw [started, words_eq_nil_iff.2 wordless]

def startLine (invocation : Host.Invocation) : Line :=
  ⟨.debug, "Running helper: " ++ Text.quotedList (invocation.program :: invocation.arguments)⟩

section

variable {m : Type → Type} [Monad m] (helper : Helper) (host : Host m) {α : Type}
  (codec : Json.Codec α) (word : String) (options : List String)

theorem invoke_cons :
    helper.invoke host codec (word :: options) = (do
      let result ← host.run (helper.started word options)
      return ⟨judge codec (helper.started word options).program helper.timeout result,
        [startLine (helper.started word options)]⟩) := by
  obtain ⟨directory, timeout⟩ := helper.started_place word options
  rw [invoke, words_append_cons]
  simp only [← directory, ← timeout]
  rfl

theorem judge_ne_empty_command (program : String) (timeout : Nat) (result : Host.RunResult) :
    judge codec program timeout result ≠ .error (.execFailed "Empty command") := by
  intro refused
  unfold judge at refused
  split at refused
  · next error =>
    have texts := congrArg String.toList (ServiceError.execFailed.inj (Except.error.inj refused))
    simp at texts
  · exact ServiceError.noConfusion (Except.error.inj refused)
  · split at refused
    · contradiction
    · exact ServiceError.noConfusion (Except.error.inj refused)
  · exact ServiceError.noConfusion (Except.error.inj refused)

theorem map_judge_ne_empty_command {β : Type} (f : α → β) (program : String) (timeout : Nat)
    (result : Host.RunResult) :
    (judge codec program timeout result).map f ≠ .error (.execFailed "Empty command") := by
  cases answer : judge codec program timeout result with
  | ok content => nofun
  | error error =>
    intro refused
    exact judge_ne_empty_command codec program timeout result (answer.trans
      (congrArg Except.error (Except.error.inj refused)))

end

section

variable {σ : Type} (helper : Helper) (host : Host (StateM σ)) (state : σ)

theorem run_invoke_noted {α : Type} (codec : Json.Codec α) (word : String)
    (options : List String) :
    let ran := (host.run (helper.started word options)).run state
    ((helper.invoke host.noted codec (word :: options)).run []).run state =
      ((⟨judge codec (helper.started word options).program helper.timeout ran.1,
          [startLine (helper.started word options)]⟩, [helper.started word options]), ran.2) := by
  rw [invoke_cons]
  rfl

theorem run_list_noted (handle : ExecutionHandle) (token : Option String) (pageSize : Nat) :
    let asked := helper.started "list-steps" (listOptions handle token pageSize)
    let ran := (host.run asked).run state
    (((helper.source host.noted).list handle token pageSize).run []).run state =
      ((⟨judge StepPage.shape.codec asked.program helper.timeout ran.1, [startLine asked]⟩,
        [asked]), ran.2) :=
  helper.run_invoke_noted host state StepPage.shape.codec "list-steps" _

theorem run_rollup_noted (handle : ExecutionHandle) :
    let asked := helper.started "get-execution" (handleArguments handle)
    let ran := (host.run asked).run state
    (((helper.source host.noted).rollup handle).run []).run state =
      ((⟨(judge Execution.shape.codec asked.program helper.timeout ran.1).map (·.rollup),
        [startLine asked]⟩, [asked]), ran.2) := by
  have run := helper.run_invoke_noted host state Execution.shape.codec "get-execution"
    (handleArguments handle)
  simp only [source, rollupArguments, StateT.run_bind, run]
  rfl

/-- A command without words is not refused. Every request starts one program, and it is the word
of the protocol, with the options of the request. -/
theorem wordless_command_starts_protocol_word (handle : ExecutionHandle) (token : Option String)
    (pageSize : Nat) (wordless : Shell.Wordless helper.command.toList) :
    let source := helper.source host.noted
    let listed := ((source.list handle token pageSize).run []).run state
    let rollup := ((source.rollup handle).run []).run state
    listed.1.2 = [⟨"list-steps", listOptions handle token pageSize, helper.directory,
      helper.timeout⟩] ∧
    listed.1.1.value ≠ .error (.execFailed "Empty command") ∧
    rollup.1.2 = [⟨"get-execution", handleArguments handle, helper.directory,
      helper.timeout⟩] ∧
    rollup.1.1.value ≠ .error (.execFailed "Empty command") := by
  intro source listed rollup
  have runList := helper.run_list_noted host state handle token pageSize
  have runRollup := helper.run_rollup_noted host state handle
  rw [started_of_wordless wordless] at runList runRollup
  refine ⟨congrArg (·.1.2) runList, ?_, congrArg (·.1.2) runRollup, ?_⟩
  · have answer : listed.1.1.value = judge StepPage.shape.codec "list-steps" helper.timeout _ :=
      congrArg (·.1.1.value) runList
    exact answer ▸ judge_ne_empty_command _ _ _ _
  · have answer : rollup.1.1.value =
        (judge Execution.shape.codec "get-execution" helper.timeout _).map _ :=
      congrArg (·.1.1.value) runRollup
    exact answer ▸ map_judge_ne_empty_command _ _ _ _ _

end

theorem comment_starts_protocol_word :
    let helper : Helper := { command := " # helper" }
    let rollup := (helper.source (Host.bare (m := StateM Unit)).noted).rollup ⟨"p", "h", "e"⟩
    Shell.Wordless helper.command.toList ∧
      ((rollup.run []).run ()).1.2 =
        [⟨"get-execution", ["--project", "p", "--history", "h", "--execution", "e"], none,
          60⟩] := by
  have wordless : Shell.Wordless " # helper".toList := Shell.words?_eq_nil_iff.1 (by decide +kernel)
  exact ⟨wordless, (wordless_command_starts_protocol_word { command := " # helper" } Host.bare ()
    ⟨"p", "h", "e"⟩ none 1 wordless).2.2.1⟩

/-- The empty command, where no program of any name exists: what is missed is the protocol's
word. -/
theorem empty_command_starts_list_steps :
    let helper : Helper := { command := "" }
    let listed := ((helper.source (Host.bare (m := Id)).noted).list ⟨"p", "h", "e"⟩ none 100).run []
    Shell.Wordless helper.command.toList ∧
      listed.2 = [⟨"list-steps", ["--project", "p", "--history", "h", "--execution", "e",
        "--page-size", "100"], none, 60⟩] ∧
      listed.1.value = .error (.execFailed
        "Failed to run list-steps: No such file or directory (os error 2)") := by
  refine ⟨.nil, by decide +kernel, ?_⟩
  have message : "Failed to run " ++ "list-steps" ++ ": " ++ Host.IoError.notFound.message =
      "Failed to run list-steps: No such file or directory (os error 2)" := by decide +kernel
  exact congrArg (fun message => Except.error (ServiceError.execFailed message)) message

end Helper
end DeviceMatrix

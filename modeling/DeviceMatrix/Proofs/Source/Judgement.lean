import DeviceMatrix.Proofs.Json.Returns
import DeviceMatrix.Proofs.Source.Invocation
import DeviceMatrix.Proofs.Text.Blank

/-! How the run of a helper is judged. What it wrote to its standard error counts only if it
failed, and what it wrote to its standard output only if it did not. A helper that failed is always
given as a message with something in it. -/
namespace DeviceMatrix.Helper

open Host (Exit Invocation RunResult)

/-- The bytes are the text of a record, with nothing but space behind it. -/
structure Decodes {α : Type} (codec : Json.Codec α) (output : List UInt8) (content : α) : Prop where
  value : codec.read (Json.read (Text.decode output)).value = .ok content
  whole : (Json.read (Text.decode output)).trailing = false

/-- What is said of a helper that failed, by the text that it left on its standard error. -/
inductive Complaint (program : String) (exit : Exit) : List Char → String → Prop where
  | said {written text : List Char} : Text.Trimmed written text → text ≠ [] →
      Complaint program exit written (String.ofList text)
  | silent {written : List Char} : Text.Blank written →
      Complaint program exit written (program ++ " exited with " ++ exit.describe)

/-- The answer to a request by what became of the run. Of a record that was decoded, `view` is what
was asked for. -/
inductive Answers {α β : Type} (codec : Json.Codec α) (view : α → β) (program : String)
    (timeout : Nat) : RunResult → Except ServiceError β → Prop where
  | notStarted (error : Host.IoError) :
      Answers codec view program timeout (.notStarted error)
        (.error (.execFailed ("Failed to run " ++ program ++ ": " ++ error.message)))
  | timedOut :
      Answers codec view program timeout .timedOut
        (.error (.timeout (program ++ " did not answer within " ++ Decimal.ofNat timeout ++ "s")))
  | failed {exit : Exit} {output errors : List UInt8} {message : String} : exit ≠ .exited 0 →
      Complaint program exit (Text.Symbol.lossy (Text.decode errors)) message →
      Answers codec view program timeout (.finished exit output errors)
        (.error (.backend message))
  | garbled {output errors : List UInt8} {problem : Record.Problem} :
      codec.readText (Text.decode output) = .error problem →
      Answers codec view program timeout (.finished (.exited 0) output errors)
        (.error (.invalidResponse (program ++ " output: " ++ problem.message)))
  | decoded {output errors : List UInt8} {content : α} : Decodes codec output content →
      Answers codec view program timeout (.finished (.exited 0) output errors)
        (.ok (view content))

theorem Complaint.not_blank {program : String} {exit : Exit} {written : List Char}
    {message : String} (complaint : Complaint program exit written message) :
    ¬Text.Blank message.toList := by
  intro blank
  cases complaint with
  | said trimmed some =>
    obtain ⟨c, rest, rfl⟩ := List.exists_cons_of_ne_nil some
    exact trimmed.1.first c rfl (blank c (by simp))
  | silent => exact absurd (blank 'x' (by simp)) (by decide)

theorem complaint_eq_iff {program : String} {exit : Exit} {errors : List UInt8}
    {message : String} :
    complaint program exit errors = message ↔
      Complaint program exit (Text.Symbol.lossy (Text.decode errors)) message := by
  unfold complaint
  generalize Text.Symbol.lossy (Text.decode errors) = written
  constructor
  · rintro rfl
    split
    · next empty => exact .silent (Text.trimmed_nil_iff.1 (Text.trim_eq_iff.1 empty))
    · next some => exact .said (Text.trimmed_trim written) some
  · rintro (⟨trimmed, some⟩ | blank)
    · rw [trimmed.trim_eq]
      split
      · contradiction
      · rfl
    · rw [(Text.trimmed_nil_iff.2 blank).trim_eq]

section

variable {α β : Type} {codec : Json.Codec α} {view : α → β} {program : String} {timeout : Nat}
  {output errors : List UInt8} {result : RunResult}

theorem readText_eq_ok_iff {content : α} :
    codec.readText (Text.decode output) = .ok content ↔ Decodes codec output content := by
  constructor
  · intro done
    obtain ⟨found, value, done⟩ := bind_ok done
    split at done
    · contradiction
    · next whole =>
      cases done
      exact ⟨value, by simpa using whole⟩
  · rintro ⟨value, whole⟩
    simp only [Json.Codec.readText, value, whole]
    rfl

theorem judge_success (output errors : List UInt8) :
    judge codec program timeout (.finished (.exited 0) output errors) =
      (codec.readText (Text.decode output)).mapError fun problem =>
        .invalidResponse (program ++ " output: " ++ problem.message) := by
  cases read : codec.readText (Text.decode output) <;> simp only [judge, read] <;> rfl

theorem judge_failure {exit : Exit} (failed : exit ≠ .exited 0) (output errors : List UInt8) :
    judge codec program timeout (.finished exit output errors) =
      .error (.backend (complaint program exit errors)) := by
  unfold judge
  split
  · contradiction
  · contradiction
  · next same => exact absurd (RunResult.finished.inj same).1 failed
  · next same =>
    obtain ⟨rfl, -, rfl⟩ := RunResult.finished.inj same
    rfl

theorem answers_judge (result : RunResult) :
    Answers codec view program timeout result ((judge codec program timeout result).map view) := by
  cases result with
  | notStarted error => exact .notStarted error
  | timedOut => exact .timedOut
  | finished exit output errors =>
    by_cases success : exit = .exited 0
    · subst success
      rw [judge_success]
      cases read : codec.readText (Text.decode output) with
      | error problem => exact .garbled read
      | ok content => exact .decoded (readText_eq_ok_iff.1 read)
    · rw [judge_failure success]
      exact .failed success (complaint_eq_iff.1 rfl)

theorem Answers.eq_judge {answer : Except ServiceError β}
    (answers : Answers codec view program timeout result answer) :
    (judge codec program timeout result).map view = answer := by
  cases answers with
  | notStarted => rfl
  | timedOut => rfl
  | failed failed complaint =>
    rw [judge_failure failed, complaint_eq_iff.2 complaint]
    rfl
  | garbled read =>
    rw [judge_success, read]
    rfl
  | decoded decodes =>
    rw [judge_success, readText_eq_ok_iff.2 decodes]
    rfl

theorem answers_ok_iff {value : β} :
    Answers codec view program timeout result (.ok value) ↔
      ∃ output errors content, result = .finished (.exited 0) output errors ∧
        Decodes codec output content ∧ value = view content := by
  constructor
  · rintro (_ | _ | _ | _ | decodes)
    exact ⟨_, _, _, rfl, decodes, rfl⟩
  · rintro ⟨output, errors, content, rfl, decodes, rfl⟩
    exact .decoded decodes

theorem Answers.not_blank {message : String}
    (answers : Answers codec view program timeout result (.error (.backend message))) :
    ¬Text.Blank message.toList := by
  cases answers with
  | failed _ complaint => exact complaint.not_blank

end

section

variable {σ α β : Type}

/-- How a request to a helper is answered that starts a program in one way: from what becomes of the
program, on whatever system and in whatever state of it. -/
structure Judged (codec : Json.Codec α) (view : α → β) (asked : Invocation)
    (request : Host (StateM σ) → StateM σ (Reply β)) : Prop where
  answers : ∀ host state answer, ((request host).run state).1.value = answer ↔
    Answers codec view asked.program asked.timeout ((host.run asked).run state).1 answer
  succeeds : ∀ host state value, ((request host).run state).1.value = .ok value ↔
    ∃ output errors content,
      ((host.run asked).run state).1 = .finished (.exited 0) output errors ∧
      Decodes codec output content ∧ value = view content
  complains : ∀ host state message,
    ((request host).run state).1.value = .error (.backend message) → ¬Text.Blank message.toList
  errorsUnseen : ∀ host state other state' output errors errors',
    ((host.run asked).run state).1 = .finished (.exited 0) output errors →
    ((other.run asked).run state').1 = .finished (.exited 0) output errors' →
    ((request host).run state).1 = ((request other).run state').1
  outputUnseen : ∀ host state other state' exit output output' errors, exit ≠ Exit.exited 0 →
    ((host.run asked).run state).1 = .finished exit output errors →
    ((other.run asked).run state').1 = .finished exit output' errors →
    ((request host).run state).1 = ((request other).run state').1

theorem judged_of_reply {codec : Json.Codec α} {view : α → β} {asked : Invocation}
    {request : Host (StateM σ) → StateM σ (Reply β)}
    (reply : ∀ host state, ((request host).run state).1 =
      ⟨(judge codec asked.program asked.timeout ((host.run asked).run state).1).map view,
        [startLine asked]⟩) :
    Judged codec view asked request := by
  have answers (host : Host (StateM σ)) (state : σ) (answer : Except ServiceError β) :
      ((request host).run state).1.value = answer ↔
        Answers codec view asked.program asked.timeout ((host.run asked).run state).1 answer := by
    rw [reply]
    exact ⟨fun same => same ▸ answers_judge _, Answers.eq_judge⟩
  refine ⟨answers, fun host state value => ?_, fun host state message complained => ?_, ?_, ?_⟩
  · rw [answers, answers_ok_iff]
  · exact ((answers host state _).1 complained).not_blank
  · intro host state other state' output errors errors' ran ran'
    rw [reply, reply, ran, ran', judge_success, judge_success]
  · intro host state other state' exit output output' errors failed ran ran'
    rw [reply, reply, ran, ran', judge_failure failed, judge_failure failed]

end

theorem started_of_words {helper : Helper} {program : String} {own : List String}
    (command : helper.words = program :: own) (word : String) (options : List String) :
    helper.started word options =
      ⟨program, own ++ word :: options, helper.directory, helper.timeout⟩ := by
  rw [started, command]

/-- Both requests to a helper that has a program are answered from a run of it, a listing with the
page and a rollup with the outcome of the execution that it printed. An execution without an outcome
is one with nothing set. -/
theorem runs_are_judged {σ : Type} {helper : Helper} {program : String} {own : List String}
    (command : helper.words = program :: own) (handle : ExecutionHandle) (token : Option String)
    (pageSize : Nat) :
    Judged StepPage.shape.codec id
      ⟨program, own ++ listArguments handle token pageSize, helper.directory, helper.timeout⟩
      (fun host : Host (StateM σ) => (helper.source host).list handle token pageSize) ∧
    Judged Execution.shape.codec
      (fun execution => execution.outcome.getD ⟨none, none, none, none⟩)
      ⟨program, own ++ rollupArguments handle, helper.directory, helper.timeout⟩
      (fun host : Host (StateM σ) => (helper.source host).rollup handle) := by
  have place (word : String) (options : List String) := started_of_words command word options
  constructor
  · refine judged_of_reply fun host state => ?_
    have ran := helper.invoke_cons host StepPage.shape.codec "list-steps"
      (listOptions handle token pageSize)
    rw [place] at ran
    have asked : (helper.source host).list handle token pageSize = _ := ran
    rw [asked, Except.map_id]
    rfl
  · refine judged_of_reply fun host state => ?_
    have ran := helper.invoke_cons host Execution.shape.codec "get-execution"
      (handleArguments handle)
    rw [place] at ran
    simp only [source, rollupArguments, ran]
    rfl

def ending (result : RunResult) : Host (StateM Unit) := { Host.bare with run _ := pure result }

/-- A helper that prints a page and fails, first with a byte that is no text between blanks, then
with blanks only, and one that succeeds with a warning and an execution without an outcome. -/
theorem failed_helper_with_page :
    let helper : Helper := { command := "sh 'my helper'" }
    let failing (errors : List UInt8) := helper.source
      (ending (.finished (.exited 3) (Text.encode "\x7b\"steps\": []\x7d") errors))
    let warning := helper.source (ending (.finished (.exited 0)
      (Text.encode "\x7b\"executionId\": \"e\"\x7d") (Text.encode "denied")))
    let handle : ExecutionHandle := ⟨"p", "h", "e"⟩
    helper.words = ["sh", "my helper"] ∧
    (((failing [0xe2, 0x80, 0x83, 0xff, 0x0a]).list handle none 2).run ()).1.value =
      .error (.backend "\ufffd") ∧
    (((failing [0xe2, 0x80, 0x83, 0x0a]).list handle none 2).run ()).1.value =
      .error (.backend "sh exited with exit status: 3") ∧
    ((warning.rollup handle).run ()).1.value = .ok ⟨none, none, none, none⟩ := by
  intro helper failing warning handle
  have command : helper.words = ["sh", "my helper"] := by decide +kernel
  obtain ⟨listed, settled⟩ := runs_are_judged (σ := Unit) command handle none 2
  have complains {errors : List UInt8} {message : String}
      (said : complaint "sh" (.exited 3) errors = message) :
      (((failing errors).list handle none 2).run ()).1.value = .error (.backend message) :=
    (listed.answers (ending _) () _).2 (.failed (by decide) (complaint_eq_iff.1 said))
  refine ⟨command, complains (by decide +kernel), complains (by decide +kernel), ?_⟩
  exact (settled.succeeds (ending _) () _).2
    ⟨_, _, { id := some "e" }, rfl, readText_eq_ok_iff.1 (by decide +kernel), rfl⟩

end DeviceMatrix.Helper

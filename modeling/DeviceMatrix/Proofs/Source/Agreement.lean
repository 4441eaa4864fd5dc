import DeviceMatrix.Proofs.Results.RoundTrip
import DeviceMatrix.Proofs.Source.Invocation
import DeviceMatrix.Proofs.Source.Paging
import DeviceMatrix.Proofs.Text.Utf8

/-! A recording asked directly, and through a helper that answers from it. Between the two stand
the arguments of the protocol, the bytes that the helper prints and the record read from them. A
listing through the helper follows the direct one request by request. -/
namespace DeviceMatrix

open Recording (requestOf stride tokenOf)
open Text (Symbol)

namespace Recording

/-- Options as a program reads them, each a name and the word behind it. -/
def options : List String → List (String × String)
  | name :: word :: rest => (name, word) :: options rest
  | _ => []

/-- What a helper prints that has the recording to answer from. It prints nothing for a request
that it does not understand, or that the recording itself refuses. -/
def answer? (recording : Recording) : List String → Option String
  | [] => none
  | request :: rest =>
    if request = "list-steps" then do
      let size ← (options rest).lookup "--page-size"
      let pageSize ← Decimal.natural? size.toList
      let page ← (recording.list ((options rest).lookup "--page-token") pageSize).toOption
      return StepPage.shape.codec.print page
    else if request = "get-execution" then
      some (Execution.shape.codec.print recording.execution)
    else none

variable (recording : Recording)

theorem answer?_listArguments {token : Option String} {pageSize : Nat} {page : StepPage}
    (listed : recording.list token pageSize = .ok page) (handle : ExecutionHandle) :
    recording.answer? (Helper.listArguments handle token pageSize) =
      some (StepPage.shape.codec.print page) := by
  cases token <;>
    simp [answer?, Helper.listArguments, Helper.handleArguments, options, List.lookup_cons,
      Decimal.natural?_digits, listed, Except.toOption]

theorem answer?_rollupArguments (handle : ExecutionHandle) :
    recording.answer? (Helper.rollupArguments handle) =
      some (Execution.shape.codec.print recording.execution) := by
  simp [answer?, Helper.rollupArguments]

/-! What was read from a text holds no unrecognized summary that spells a known word, and no part
of it does. So its parts come back as they are. -/

theorem canonical_of_readText {text : List Symbol} {recording : Recording}
    (decoded : shape.codec.readText text = .ok recording) : recording.canonical = recording := by
  obtain ⟨source, read⟩ := Json.Codec.read_of_readText decoded
  have settled := codec_settled source recording read
  exact Except.ok.inj ((codec_returns recording).symm.trans settled)

variable {recording : Recording} (canonical : recording.canonical = recording)

include canonical

theorem readText_page (start pageSize : Nat) :
    StepPage.shape.codec.readText
      (Symbol.ofString (StepPage.shape.codec.print (recording.page start pageSize))) =
        .ok (recording.page start pageSize) := by
  have steps : recording.steps.map (·.canonical) = recording.steps :=
    congrArg Recording.steps canonical
  have page : (recording.page start pageSize).canonical = recording.page start pageSize := by
    simp [StepPage.canonical, Recording.page, List.extract_eq_take_drop, List.map_take,
      List.map_drop, steps]
  have back := Json.Codec.readText_print
    (StepPage.codec_returns (recording.page start pageSize))
  rwa [page] at back

theorem readText_execution :
    Execution.shape.codec.readText
      (Symbol.ofString (Execution.shape.codec.print recording.execution)) =
        .ok recording.execution := by
  have execution : recording.execution.canonical = recording.execution :=
    congrArg Recording.execution canonical
  have back := Json.Codec.readText_print (Execution.codec_returns recording.execution)
  rwa [execution] at back

end Recording

/-- A word that can be handed to a program. -/
def Passable (word : String) : Prop := '\x00' ∉ word.toList

instance (word : String) : Decidable (Passable word) := inferInstanceAs (Decidable (_ ∉ _))

theorem passable_ofNat (n : Nat) : Passable (Decimal.ofNat n) := by
  intro member
  rw [Decimal.toList_ofNat] at member
  exact absurd (Decimal.isDigit_of_mem_digits member) (by decide)

def ExecutionHandle.Passable (handle : ExecutionHandle) : Prop :=
  DeviceMatrix.Passable handle.project ∧ DeviceMatrix.Passable handle.history ∧
    DeviceMatrix.Passable handle.execution

section

variable {σ α β : Type} {ready : σ → Prop}

/-- The one run ended with the value of the other and made its requests, and it left its system
ready. The logs differ, for a helper is logged as it is started. -/
structure Alike (ready : σ → Prop) (ran : (Fetched α × List Request) × σ)
    (wanted : Fetched α × List Request) : Prop where
  still : ready ran.2
  value : ran.1.1.value = wanted.1.value
  made : ran.1.2 = wanted.2

/-- The one run is like the other from any ready state. -/
def Follows (ready : σ → Prop) (helped : StateT (List Request) (StateM σ) (Fetched α))
    (direct : StateT (List Request) Id (Fetched α)) : Prop :=
  ∀ requests state, ready state →
    Alike ready ((helped.run requests).run state).run (direct.run requests).run

theorem Follows.pure {ours theirs : Fetched α} (same : ours.value = theirs.value) :
    Follows ready (pure ours) (pure theirs) :=
  fun _ _ start => ⟨start, same, rfl⟩

theorem Follows.bind {helped : StateT (List Request) (StateM σ) (Fetched α)}
    {direct : StateT (List Request) Id (Fetched α)} (follows : Follows ready helped direct)
    {f : Fetched α → StateT (List Request) (StateM σ) (Fetched β)}
    {g : Fetched α → StateT (List Request) Id (Fetched β)}
    (each : ∀ ours theirs, ours.value = theirs.value → Follows ready (f ours) (g theirs)) :
    Follows ready (helped >>= f) (direct >>= g) := by
  intro requests state start
  have first := follows requests state start
  have rest := each _ _ first.value (direct.run requests).run.2 _ first.still
  have ran : ((helped >>= f).run requests).run state =
      ((f ((helped.run requests).run state).run.1.1).run
        ((helped.run requests).run state).run.1.2).run ((helped.run requests).run state).run.2 :=
    rfl
  rw [ran, first.made]
  exact rest

theorem run_noted {ask : StateM σ (Reply α)} {reply : Reply α} {state next : σ}
    (run : ask.run state = (reply, next)) (request : Request)
    (f : Reply α → StateT (List Request) (StateM σ) β) (requests : List Request) :
    (((do modify (· ++ [request]); ask) >>= f).run requests).run state =
      ((f reply).run (requests ++ [request])).run next := by
  have ran : (((do modify (· ++ [request]); ask) >>= f).run requests).run state =
      ((f (ask.run state).1).run (requests ++ [request])).run (ask.run state).2 := rfl
  rw [ran, run]

end

namespace Fetcher

variable {m : Type → Type} [Monad m]

/-- What is made of the reply to a request for an outcome. -/
def settle (fetcher : Fetcher m) (reply : Reply Outcome) : m (Fetched Outcome) :=
  match reply.value with
  | .error error => pure ⟨.error (.fetchRollup error), reply.log⟩
  | .ok outcome => pure ⟨.ok outcome, reply.log ++ [fetcher.rollupLine outcome]⟩

theorem rollup_eq (fetcher : Fetcher m) :
    fetcher.rollup = fetcher.source.rollup fetcher.handle >>= fetcher.settle := rfl

end Fetcher

namespace Helper

/-- The helper answers from the recording: whatever it is asked in ready states of its system, it
starts, sees the words of the request as they are, prints its answer and ends well and in time.
Its standard error does not matter. -/
def Serves {σ : Type} (helper : Helper) (host : Host (StateM σ)) (recording : Recording)
    (ready : σ → Prop) : Prop :=
  ∀ state, ready state → ∀ word options output,
    (∀ argument ∈ word :: options, Passable argument) →
    recording.answer? (word :: options) = some output →
    ∃ errors next, ready next ∧
      (host.run (helper.started word options)).run state =
        (.finished (.exited 0) (Text.encode output) errors, next)

def fetcher {m : Type → Type} [Monad m] (helper : Helper) (host : Host m) (pageSize : Nat)
    (handle : ExecutionHandle) : Fetcher (StateT (List Request) m) :=
  ⟨(helper.source host).noted, handle, pageSize⟩

theorem judge_print {α : Type} {codec : Json.Codec α} {content : α}
    (back : codec.readText (Symbol.ofString (codec.print content)) = .ok content)
    (program : String) (timeout : Nat) (errors : List UInt8) :
    judge codec program timeout
      (.finished (.exited 0) (Text.encode (codec.print content)) errors) = .ok content := by
  rw [judge, Text.decode_encode, back]

variable {handle : ExecutionHandle}

theorem passable_handleArguments (clean : handle.Passable) :
    ∀ argument ∈ handleArguments handle, Passable argument := by
  obtain ⟨project, history, execution⟩ := clean
  simp only [handleArguments, List.forall_mem_cons]
  exact ⟨by decide, project, by decide, history, by decide, execution, nofun⟩

theorem passable_listArguments (clean : handle.Passable) (pageSize k : Nat) :
    ∀ argument ∈ listArguments handle (tokenOf pageSize k) pageSize, Passable argument := by
  have size := passable_ofNat pageSize
  simp only [listArguments, List.cons_append, List.forall_mem_cons, List.forall_mem_append]
  refine ⟨by decide, ⟨passable_handleArguments clean, by decide, size, nofun⟩, ?_⟩
  cases k with
  | zero => nofun
  | succ k =>
    simp only [tokenOf, List.forall_mem_cons]
    exact ⟨by decide, passable_ofNat _, nofun⟩

variable {σ : Type} {helper : Helper} {host : Host (StateM σ)} {recording : Recording}
  {ready : σ → Prop} (serves : helper.Serves host recording ready)

include serves

theorem invoke_served {α : Type} {codec : Json.Codec α} {content : α} {state : σ}
    (start : ready state) {word : String} {options : List String}
    (clean : ∀ argument ∈ word :: options, Passable argument)
    (answer : recording.answer? (word :: options) = some (codec.print content))
    (back : codec.readText (Symbol.ofString (codec.print content)) = .ok content) :
    ∃ log next, ready next ∧
      (helper.invoke host codec (word :: options)).run state = (⟨.ok content, log⟩, next) := by
  obtain ⟨errors, next, still, run⟩ := serves state start word options _ clean answer
  refine ⟨[startLine (helper.started word options)], next, still, ?_⟩
  rw [invoke_cons, StateT.run_bind, run,
    ← judge_print back (helper.started word options).program helper.timeout errors]
  rfl

section

variable (clean : handle.Passable) (canonical : recording.canonical = recording) {state : σ}
  (start : ready state)

include clean canonical start

theorem run_list {pageSize k : Nat} (inside : k < recording.pageCount pageSize)
    (fits : recording.steps.length ≤ Decimal.maxWord) :
    ∃ log next, ready next ∧
      ((helper.source host).list handle (tokenOf pageSize k) pageSize).run state =
        (⟨.ok (recording.page (k * stride pageSize) pageSize), log⟩, next) :=
  invoke_served serves start (passable_listArguments clean pageSize k)
    (recording.answer?_listArguments (recording.list_tokenOf pageSize inside fits) handle)
    (Recording.readText_page canonical _ _)

theorem run_rollup :
    ∃ log next, ready next ∧
      ((helper.source host).rollup handle).run state =
        (⟨.ok recording.execution.rollup, log⟩, next) := by
  have arguments : ∀ argument ∈ rollupArguments handle, Passable argument :=
    List.forall_mem_cons.2 ⟨by decide, passable_handleArguments clean⟩
  obtain ⟨log, next, still, run⟩ := invoke_served serves start arguments
    (recording.answer?_rollupArguments handle) (Recording.readText_execution canonical)
  refine ⟨log, next, still, ?_⟩
  rw [source, StateT.run_bind, rollupArguments, run]
  rfl

end

variable (clean : handle.Passable) (canonical : recording.canonical = recording) (name : String)

include clean canonical

/-- The induction is on the requests that may still be made. Every token that a page of the
recording goes on with is the one of the next page. -/
theorem listFrom_follows (fits : recording.steps.length ≤ Decimal.maxWord) {pageSize k : Nat}
    (inside : k < recording.pageCount pageSize) (limit : Nat) :
    Follows ready
      ((helper.fetcher host pageSize handle).listFrom limit (tokenOf pageSize k))
      ((recording.fetcher pageSize name handle).listFrom limit (tokenOf pageSize k)) := by
  induction limit generalizing k with
  | zero => exact fun requests state start => ⟨start, rfl, rfl⟩
  | succ limit ih =>
    intro requests state start
    obtain ⟨log, next, still, run⟩ := run_list serves clean canonical start inside fits
    have helped : (((helper.fetcher host pageSize handle).listFrom (limit + 1)
        (tokenOf pageSize k)).run requests).run state =
          (((helper.fetcher host pageSize handle).proceed
            ((helper.fetcher host pageSize handle).listFrom limit)
              ⟨.ok (recording.page (k * stride pageSize) pageSize), log⟩).run
                (requests ++ [requestOf pageSize handle k])).run next :=
      run_noted run (requestOf pageSize handle k) (Fetcher.proceed _ _) requests
    have direct : ((recording.fetcher (m := Id) pageSize name handle).listFrom (limit + 1)
        (tokenOf pageSize k)).run requests =
          ((recording.fetcher (m := Id) pageSize name handle).proceed
            ((recording.fetcher pageSize name handle).listFrom limit)
              ⟨.ok (recording.page (k * stride pageSize) pageSize), []⟩).run
                (requests ++ [requestOf pageSize handle k]) :=
      Recording.run_list recording pageSize name handle inside fits _ requests
    have page := recording.page_next? pageSize fits k
    rw [helped, direct]
    by_cases behind : k + 1 < recording.pageCount pageSize
    · rw [if_pos behind, tokenOf] at page
      rw [Fetcher.proceed_next _ _ page, Fetcher.proceed_next _ _ page]
      refine (ih behind).bind (fun ours theirs same => Follows.pure ?_) _ next still
      exact congrArg (Except.map _) same
    · rw [if_neg behind] at page
      rw [Fetcher.proceed_last _ _ page, Fetcher.proceed_last _ _ page]
      exact ⟨still, rfl, rfl⟩

theorem steps_follow (fits : recording.steps.length ≤ Decimal.maxWord) (pageSize : Nat) :
    Follows ready (helper.fetcher host pageSize handle).steps
      (recording.fetcher pageSize name handle).steps := by
  have first : 0 < recording.pageCount pageSize := Nat.le_max_left 1 _
  exact listFrom_follows serves clean canonical name fits first Fetcher.requestLimit

theorem summary_follows (fits : recording.steps.length ≤ Decimal.maxWord) (pageSize : Nat) :
    Follows ready (helper.fetcher host pageSize handle).summary
      (recording.fetcher pageSize name handle).summary := by
  refine (steps_follow serves clean canonical name fits pageSize).bind fun ours theirs same => ?_
  rw [same]
  cases theirs.value with
  | error => exact Follows.pure rfl
  | ok => exact Follows.pure rfl

theorem rollup_follows (pageSize : Nat) :
    Follows ready (helper.fetcher host pageSize handle).rollup
      (recording.fetcher pageSize name handle).rollup := by
  intro requests state start
  obtain ⟨log, next, still, run⟩ := run_rollup serves clean canonical start
  have helped : ((helper.fetcher host pageSize handle).rollup.run requests).run state =
      (((helper.fetcher host pageSize handle).settle ⟨.ok recording.execution.rollup, log⟩).run
        (requests ++ [.rollup handle])).run next := by
    rw [Fetcher.rollup_eq]
    exact run_noted run (.rollup handle) (Fetcher.settle _) requests
  rw [helped]
  exact ⟨still, rfl, rfl⟩

end Helper

/-- Whatever is fetched through a helper that answers from a recording is what is fetched from the
recording itself, by the same requests: the recorded steps, their rows and the outcome of the
execution. -/
theorem helper_agrees_with_recording {σ : Type} {helper : Helper} {host : Host (StateM σ)}
    {text : List Symbol} {recording : Recording} {handle : ExecutionHandle} {ready : σ → Prop}
    {state : σ} (decoded : Recording.shape.codec.readText text = .ok recording)
    (bound : recording.steps.length < 2 ^ 63) (clean : handle.Passable)
    (serves : helper.Serves host recording ready) (start : ready state) (name : String)
    (pageSize : Nat) :
    let direct : Fetcher (StateT (List Request) Id) := recording.fetcher pageSize name handle
    let helped := helper.fetcher host pageSize handle
    Alike ready ((helped.steps.run []).run state) (direct.steps.run []) ∧
    Alike ready ((helped.summary.run []).run state) (direct.summary.run []) ∧
    Alike ready ((helped.rollup.run []).run state) (direct.rollup.run []) ∧
    (direct.steps.run []).run.1.value = .ok recording.steps ∧
    (direct.summary.run []).run.1.value = .ok (summarize recording.steps).value ∧
    (direct.rollup.run []).run.1.value = .ok recording.execution.rollup := by
  have canonical := Recording.canonical_of_readText decoded
  have fits : recording.steps.length ≤ Decimal.maxWord := by
    simp only [Decimal.maxWord]
    omega
  refine ⟨?_, ?_, ?_, ?_, ?_, rfl⟩
  · exact Helper.steps_follow serves clean canonical name fits pageSize [] state start
  · exact Helper.summary_follows serves clean canonical name fits pageSize [] state start
  · exact Helper.rollup_follows serves clean canonical name pageSize [] state start
  · rw [recording.run_steps pageSize name handle bound]
    rfl
  · rw [recording.run_summary pageSize name handle bound]
    rfl

/-- A system whose only program answers from the recording. It counts how often it is run. -/
def Recording.answering (recording : Recording) : Host (StateM Nat) where
  __ := Host.bare
  run invocation count :=
    match recording.answer? invocation.arguments with
    | some output => (.finished (.exited 0) (Text.encode output) [], count + 1)
    | none => (.finished (.exited 2) [] (Text.encode "what?"), count + 1)

theorem Recording.answering_serves {recording : Recording} {helper : Helper} {program : String}
    (words : helper.words = [program]) :
    helper.Serves recording.answering recording (fun _ => True) := by
  intro count _ word options output _ answer
  have run : recording.answering.run (helper.started word options) count =
      (.finished (.exited 0) (Text.encode output) [], count + 1) := by
    simp only [Helper.started, words, Recording.answering, List.nil_append, answer]
  exact ⟨[], count + 1, trivial, run⟩

/-- Three steps on two pages, and a project that is named like an option. -/
theorem helper_agrees_with_three_steps :
    let recording : Recording := {
      execution := { outcome := some { summary := some .failure } }
      steps := [{ name := some "a" }, { id := some "1", outcome := some {} }, {}] }
    let helped := Helper.fetcher { command := "helper" } recording.answering 2
      ⟨"--page-token", "h", "e"⟩
    ((helped.steps.run []).run 0).run.1.1.value = .ok recording.steps ∧
    ((helped.rollup.run []).run 0).run.1.1.value = .ok recording.execution.rollup := by
  intro recording helped
  have decoded : Recording.shape.codec.readText (Symbol.ofString
      "\x7b\"execution\": \x7b\"outcome\": \x7b\"summary\": \"failure\"\x7d\x7d, \"steps\":
        [\x7b\"name\": \"a\"\x7d, \x7b\"stepId\": \"1\", \"outcome\": \x7b\x7d\x7d, []]\x7d") =
      .ok recording := by decide +kernel
  have clean : ExecutionHandle.Passable ⟨"--page-token", "h", "e"⟩ :=
    ⟨by decide, by decide, by decide⟩
  have words : Helper.words { command := "helper" } = ["helper"] := by decide +kernel
  have ready : (fun _ : Nat => True) 0 := trivial
  obtain ⟨steps, _, rollup, listed, _, settled⟩ := helper_agrees_with_recording decoded
    (by decide) clean (Recording.answering_serves words) ready "three" 2
  exact ⟨steps.value.trans listed, rollup.value.trans settled⟩

end DeviceMatrix

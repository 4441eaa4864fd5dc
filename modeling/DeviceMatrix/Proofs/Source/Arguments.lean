import DeviceMatrix.Proofs.Shell.Quoting
import DeviceMatrix.Proofs.Source.Invocation
import DeviceMatrix.Proofs.Text.Decimal

/-! The arguments that a helper is given. Only the command is split into words. Behind them the
parts of a request are words of their own, whatever they contain, and the request can be told from
them. -/
namespace DeviceMatrix

namespace Request

def handle : Request → ExecutionHandle
  | list handle _ _ | rollup handle => handle

def word : Request → String
  | list .. => "list-steps"
  | rollup .. => "get-execution"

/-- The words for the page that is asked for. A rollup has none, and an empty token has two words
where no token has none. -/
def paging : Request → List String
  | list _ token pageSize => ["--page-size", Decimal.ofNat pageSize] ++
    match token with
    | none => []
    | some token => ["--page-token", token]
  | rollup _ => []

/-- All words behind the one that names the request. -/
def options (request : Request) : List String :=
  Helper.handleArguments request.handle ++ request.paging

theorem handleArguments_append_inj {handle other : ExecutionHandle} {rest rest' : List String} :
    Helper.handleArguments handle ++ rest = Helper.handleArguments other ++ rest' ↔
      handle = other ∧ rest = rest' := by
  obtain ⟨project, history, execution⟩ := handle
  obtain ⟨project', history', execution'⟩ := other
  simp [Helper.handleArguments, and_assoc]

theorem list_paging_inj {handle other : ExecutionHandle} {token token' : Option String}
    {pageSize pageSize' : Nat}
    (same : (list handle token pageSize).paging = (list other token' pageSize').paging) :
    token = token' ∧ pageSize = pageSize' := by
  obtain ⟨size, tokens⟩ : Decimal.ofNat pageSize = Decimal.ofNat pageSize' ∧ _ := by
    simpa [paging] using same
  refine ⟨?_, Decimal.ofNat_injective size⟩
  cases token <;> cases token' <;> simp_all

theorem options_injective : Function.Injective options := by
  intro first second same
  obtain ⟨handles, pagings⟩ := handleArguments_append_inj.1 same
  cases first with
  | list handle token pageSize =>
    cases second with
    | list other token' pageSize' =>
      obtain ⟨tokens, sizes⟩ := list_paging_inj pagings
      rw [show handle = other from handles, tokens, sizes]
    | rollup => exact absurd pagings (List.cons_ne_nil _ _)
  | rollup handle =>
    cases second with
    | list => exact absurd pagings.symm (List.cons_ne_nil _ _)
    | rollup => exact congrArg rollup handles

end Request

namespace Helper

theorem words_of_spells {helper : Helper} {words : List String}
    (spells : Shell.Spells helper.command.toList words) : helper.words = words := by
  rw [Helper.words, spells.words?]
  rfl

theorem options_of_started_arguments {helper : Helper} {word word' : String}
    {options options' : List String}
    (same : (helper.started word options).arguments =
      (helper.started word' options').arguments) : options = options' := by
  unfold started at same
  cases words : helper.words with
  | nil => simpa [words] using same
  | cons program own =>
    have behind : own ++ word :: options = own ++ word' :: options' := by simpa [words] using same
    exact (List.cons.inj (List.append_cancel_left behind)).2

variable {σ : Type}

/-- The programs that a helper runs for a request, on a system in some state. -/
def runsFor (helper : Helper) (host : Host (StateM σ)) (state : σ) :
    Request → List Host.Invocation
  | .list handle token pageSize =>
    (((helper.source host.noted).list handle token pageSize).run [] |>.run state).1.2
  | .rollup handle => (((helper.source host.noted).rollup handle).run [] |>.run state).1.2

theorem runsFor_eq (helper : Helper) (host : Host (StateM σ)) (state : σ) (request : Request) :
    helper.runsFor host state request = [helper.started request.word request.options] := by
  cases request with
  | list handle token pageSize =>
    have run := helper.run_list_noted host state handle token pageSize
    exact congrArg (·.1.2) run
  | rollup handle =>
    have run := helper.run_rollup_noted host state handle
    rw [runsFor, run, Request.options, Request.paging, List.append_nil]
    rfl

/-- A request runs one program. If the command spells its words between quotes, the program and its
arguments are those words and, each unchanged and on its own, the words of the protocol and the
parts of the request. And whatever the command is, the arguments tell the request: the two kinds
of it, every part of the handle, the page size, the token, and no token from an empty one. -/
theorem arguments_arrive_unchanged (helper : Helper) (host : Host (StateM σ)) (state : σ) :
    (∀ words, Shell.Spells helper.command.toList words → ∀ handle : ExecutionHandle,
      (∀ token pageSize, ∃ ran,
        helper.runsFor host state (.list handle token pageSize) = [ran] ∧
        ran.program :: ran.arguments = words ++ ["list-steps", "--project", handle.project,
          "--history", handle.history, "--execution", handle.execution,
          "--page-size", Decimal.ofNat pageSize] ++ match token with
            | none => []
            | some token => ["--page-token", token]) ∧
      ∃ ran, helper.runsFor host state (.rollup handle) = [ran] ∧
        ran.program :: ran.arguments = words ++ ["get-execution", "--project", handle.project,
          "--history", handle.history, "--execution", handle.execution]) ∧
    ∀ (first second : Request) (other : σ),
      (helper.runsFor host state first).map (·.arguments) =
          (helper.runsFor host other second).map (·.arguments) →
        first = second := by
  refine ⟨fun words spells handle => ⟨fun token pageSize => ?_, ?_⟩, ?_⟩
  · refine ⟨_, helper.runsFor_eq host state _, ?_⟩
    rw [← words_append_cons, words_of_spells spells]
    cases token <;>
      simp [Request.word, Request.options, Request.handle, Request.paging, handleArguments]
  · refine ⟨_, helper.runsFor_eq host state _, ?_⟩
    rw [← words_append_cons, words_of_spells spells]
    rfl
  · intro first second other same
    rw [runsFor_eq, runsFor_eq] at same
    exact Request.options_injective (options_of_started_arguments (List.cons.inj same).1)

/-- A command with a quote, blanks, a comment sign and an empty word, and a request whose parts look
like the protocol. -/
theorem awkward_arguments_arrive :
    let words := ["it's a helper", "", "# \\\" --page-token"]
    let helper : Helper := { command := Shell.joined words }
    Shell.Spells helper.command.toList words ∧
    helper.command = "'it'\\''s a helper' '' '# \\\" --page-token'" ∧
    ∃ ran, helper.runsFor Host.bare () (.list ⟨"--history", "", "a 'b' \\"⟩ (some "") 10) =
        [ran] ∧
      ran.program = "it's a helper" ∧
      ran.arguments = ["", "# \\\" --page-token", "list-steps", "--project", "--history",
        "--history", "", "--execution", "a 'b' \\", "--page-size", "10", "--page-token", ""] := by
  intro words helper
  have spells : Shell.Spells helper.command.toList words := Shell.spells_joined nofun
  obtain ⟨arrive, -⟩ := arguments_arrive_unchanged helper (Host.bare (m := StateM Unit)) ()
  obtain ⟨ran, only, started⟩ :=
    (arrive words spells ⟨"--history", "", "a 'b' \\"⟩).1 (some "") 10
  have ten : Decimal.ofNat 10 = "10" := by decide +kernel
  rw [ten] at started
  obtain ⟨program, arguments⟩ := List.cons.inj started
  exact ⟨spells, by decide +kernel, ran, only, program, arguments⟩

end Helper
end DeviceMatrix

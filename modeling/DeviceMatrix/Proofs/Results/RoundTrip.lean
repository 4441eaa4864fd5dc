import DeviceMatrix.Proofs.Json.Records
import DeviceMatrix.Results.Wire

/-! The records of a results service, written as JSON and read again. All of them come back, but
for one thing: a summary keeps only its word, so an unrecognized one whose word is known after all
comes back as the summary of that word. -/
namespace DeviceMatrix

open Json (Codec RowReturns Shape)
open Record (Row)
open Text (Symbol)
open Json.Codec (flag_faithful int32_faithful int32_solid list_faithful list_returns_map
  list_settled text_faithful text_solid)
open Json.Member (defaulted defaulted_returns defaulted_settled optional_returns_map
  optional_returns_self optional_settled required_returns)
open Json.Shape (codec_returns codec_solid)

/-- A known word stands for its own summary. -/
def OutcomeSummary.canonical : OutcomeSummary → OutcomeSummary
  | unrecognized name => ofName name
  | known => known

def Outcome.canonical (outcome : Outcome) : Outcome :=
  { outcome with summary := outcome.summary.map (·.canonical) }

def Step.canonical (step : Step) : Step :=
  { step with outcome := step.outcome.map (·.canonical) }

def StepPage.canonical (page : StepPage) : StepPage :=
  { page with steps := page.steps.map (·.canonical) }

def Execution.canonical (execution : Execution) : Execution :=
  { execution with outcome := execution.outcome.map (·.canonical) }

def Recording.canonical (recording : Recording) : Recording :=
  ⟨recording.execution.canonical, recording.steps.map (·.canonical)⟩

/-! Summaries. -/

namespace OutcomeSummary

theorem codec_returns (summary : OutcomeSummary) : codec.Returns summary summary.canonical := by
  have word : summary.canonical = ofName summary.name := by
    rw [ofName_name]
    cases summary <;> rfl
  rw [word]
  exact Codec.mapped_returns (text_faithful summary.name)

theorem codec_settled : codec.Settled := Codec.mapped_settled text_faithful.settled name_ofName

theorem codec_solid : codec.Solid := fun _ => nofun

end OutcomeSummary

/-! Records in which no summary occurs. -/

theorem flags_return (first second third : String) (row : Row [Bool, Bool, Bool]) :
    RowReturns (.cons (defaulted first .flag false) <| .cons (defaulted second .flag false) <|
      .cons (defaulted third .flag false) .nil) row row :=
  .cons (defaulted_returns (flag_faithful _)) <| .cons (defaulted_returns (flag_faithful _)) <|
    .cons (defaulted_returns (flag_faithful _)) .nil

theorem FailureDetail.faithful : FailureDetail.shape.codec.Faithful := fun _ =>
  codec_returns (by decide) (flags_return _ _ _ _)

theorem InconclusiveDetail.faithful : InconclusiveDetail.shape.codec.Faithful := fun _ =>
  codec_returns (by decide) (flags_return _ _ _ _)

theorem SkippedDetail.faithful : SkippedDetail.shape.codec.Faithful := fun _ =>
  codec_returns (by decide) (flags_return _ _ _ _)

theorem SuiteOverview.faithful : SuiteOverview.shape.codec.Faithful := fun _ =>
  codec_returns (by decide) <| .cons (optional_returns_self text_solid text_faithful _) <|
    .cons (optional_returns_self int32_solid int32_faithful _) <|
    .cons (optional_returns_self int32_solid int32_faithful _) <|
    .cons (optional_returns_self int32_solid int32_faithful _) <|
    .cons (optional_returns_self int32_solid int32_faithful _) .nil

theorem TestExecution.faithful : TestExecution.shape.codec.Faithful := fun _ =>
  codec_returns (by decide) <|
    .cons (defaulted_returns (list_faithful SuiteOverview.faithful _)) .nil

theorem Dimension.faithful : Dimension.shape.codec.Faithful := fun _ =>
  codec_returns (by decide) <| .cons (required_returns (text_faithful _)) <|
    .cons (required_returns (text_faithful _)) .nil

/-! Records with summaries in them. -/

theorem Outcome.codec_returns (outcome : Outcome) :
    shape.codec.Returns outcome outcome.canonical :=
  Shape.codec_returns (by decide) <|
    .cons (optional_returns_map OutcomeSummary.codec_solid OutcomeSummary.codec_returns _) <|
    .cons (optional_returns_self codec_solid FailureDetail.faithful _) <|
    .cons (optional_returns_self codec_solid InconclusiveDetail.faithful _) <|
    .cons (optional_returns_self codec_solid SkippedDetail.faithful _) .nil

theorem Outcome.codec_settled : shape.codec.Settled :=
  Shape.codec_settled (by decide) <|
    .cons (optional_settled OutcomeSummary.codec_solid OutcomeSummary.codec_settled) <|
    .cons (optional_settled codec_solid FailureDetail.faithful.settled) <|
    .cons (optional_settled codec_solid InconclusiveDetail.faithful.settled) <|
    .cons (optional_settled codec_solid SkippedDetail.faithful.settled) .nil

theorem Step.codec_returns (step : Step) : shape.codec.Returns step step.canonical :=
  Shape.codec_returns (by decide) <|
    .cons (optional_returns_self text_solid text_faithful _) <|
    .cons (optional_returns_self text_solid text_faithful _) <|
    .cons (optional_returns_map codec_solid Outcome.codec_returns _) <|
    .cons (optional_returns_self codec_solid TestExecution.faithful _) <|
    .cons (defaulted_returns (list_faithful Dimension.faithful _)) .nil

theorem Step.codec_settled : shape.codec.Settled :=
  Shape.codec_settled (by decide) <|
    .cons (optional_settled text_solid text_faithful.settled) <|
    .cons (optional_settled text_solid text_faithful.settled) <|
    .cons (optional_settled codec_solid Outcome.codec_settled) <|
    .cons (optional_settled codec_solid TestExecution.faithful.settled) <|
    .cons (defaulted_settled (list_settled Dimension.faithful.settled)
      (list_faithful Dimension.faithful [])) .nil

theorem StepPage.codec_returns (page : StepPage) : shape.codec.Returns page page.canonical :=
  Shape.codec_returns (by decide) <|
    .cons (defaulted_returns (list_returns_map Step.codec_returns _)) <|
    .cons (optional_returns_self text_solid text_faithful _) .nil

theorem StepPage.codec_settled : shape.codec.Settled :=
  Shape.codec_settled (by decide) <|
    .cons (defaulted_settled (list_settled Step.codec_settled)
      (list_returns_map Step.codec_returns [])) <|
    .cons (optional_settled text_solid text_faithful.settled) .nil

theorem Execution.codec_returns (execution : Execution) :
    shape.codec.Returns execution execution.canonical :=
  Shape.codec_returns (by decide) <|
    .cons (optional_returns_self text_solid text_faithful _) <|
    .cons (optional_returns_map codec_solid Outcome.codec_returns _) .nil

theorem Execution.codec_settled : shape.codec.Settled :=
  Shape.codec_settled (by decide) <|
    .cons (optional_settled text_solid text_faithful.settled) <|
    .cons (optional_settled codec_solid Outcome.codec_settled) .nil

theorem Recording.codec_returns (recording : Recording) :
    shape.codec.Returns recording recording.canonical :=
  Shape.codec_returns (by decide) <|
    .cons (defaulted_returns (Execution.codec_returns _)) <|
    .cons (defaulted_returns (list_returns_map Step.codec_returns _)) .nil

theorem Recording.codec_settled : shape.codec.Settled :=
  Shape.codec_settled (by decide) <|
    .cons (defaulted_settled Execution.codec_settled (Execution.codec_returns {})) <|
    .cons (defaulted_settled (list_settled Step.codec_settled)
      (list_returns_map Step.codec_returns [])) .nil

/-- Every record of the service comes back from the text printed for it, with known words put in
the place of unrecognized summaries that spell them. Whatever was read from a text, in any layout
and with any members besides, comes back unchanged. -/
theorem records_round_trip :
    Outcome.shape.codec.RoundTrips Outcome.canonical ∧
      FailureDetail.shape.codec.RoundTrips id ∧
      InconclusiveDetail.shape.codec.RoundTrips id ∧
      SkippedDetail.shape.codec.RoundTrips id ∧
      SuiteOverview.shape.codec.RoundTrips id ∧
      TestExecution.shape.codec.RoundTrips id ∧
      Dimension.shape.codec.RoundTrips id ∧
      Step.shape.codec.RoundTrips Step.canonical ∧
      StepPage.shape.codec.RoundTrips StepPage.canonical ∧
      Execution.shape.codec.RoundTrips Execution.canonical ∧
      Recording.shape.codec.RoundTrips Recording.canonical := by
  refine ⟨?_, ?_, ?_, ?_, ?_, ?_, ?_, ?_, ?_, ?_, ?_⟩
  · exact Codec.roundTrips Outcome.codec_returns Outcome.codec_settled
  · exact FailureDetail.faithful.roundTrips
  · exact InconclusiveDetail.faithful.roundTrips
  · exact SkippedDetail.faithful.roundTrips
  · exact SuiteOverview.faithful.roundTrips
  · exact TestExecution.faithful.roundTrips
  · exact Dimension.faithful.roundTrips
  · exact Codec.roundTrips Step.codec_returns Step.codec_settled
  · exact Codec.roundTrips StepPage.codec_returns StepPage.codec_settled
  · exact Codec.roundTrips Execution.codec_returns Execution.codec_settled
  · exact Codec.roundTrips Recording.codec_returns Recording.codec_settled

/-- A page that holds an empty array for its first step, and in the second an escaped letter and
a member that no step has; and a known word that was kept as an unrecognized one. -/
theorem page_in_other_layout_round_trips :
    StepPage.shape.codec.readText (Symbol.ofString
        "\x7b\"steps\": [[], \x7b\"name\": \"\\u00e9\", \"more\": 1\x7d]\x7d") =
          .ok ⟨[{}, { name := "é" }], none⟩ ∧
      StepPage.shape.codec.readText (Symbol.ofString
        (StepPage.shape.codec.print ⟨[{}, { name := "é" }], none⟩)) =
          .ok ⟨[{}, { name := "é" }], none⟩ ∧
      Outcome.shape.codec.readText (Symbol.ofString
        (Outcome.shape.codec.print { summary := some (.unrecognized "skipped") })) =
          .ok { summary := some .skipped } := by
  obtain ⟨outcome, _, _, _, _, _, _, _, page, _⟩ := records_round_trip
  have read : StepPage.shape.codec.readText (Symbol.ofString
      "\x7b\"steps\": [[], \x7b\"name\": \"\\u00e9\", \"more\": 1\x7d]\x7d") =
        .ok ⟨[{}, { name := "é" }], none⟩ := by decide +kernel
  exact ⟨read, (page.reread _ _ read).1, outcome.printed _⟩

end DeviceMatrix

import DeviceMatrix.Json.Codec
import DeviceMatrix.Results.Handle
import DeviceMatrix.Results.Recording

/-! The records of a results service in JSON. Flags and lists are always written, all other
parts only when they are there. -/
namespace DeviceMatrix

open Json (Codec Shape)
open Json.Member (required defaulted optional)

def ExecutionHandle.shape : Shape ExecutionHandle where
  name := "ExecutionHandle"
  members := .cons (required "project" .text) <| .cons (required "history_id" .text) <|
    .cons (required "execution_id" .text) .nil
  make := fun (project, history, execution, ()) => ⟨project, history, execution⟩
  view handle := (handle.project, handle.history, handle.execution, ())

def OutcomeSummary.codec : Codec OutcomeSummary := Codec.text.mapped ofName name

def FailureDetail.shape : Shape FailureDetail where
  name := "FailureDetail"
  members := .cons (defaulted "crashed" .flag false) <| .cons (defaulted "timedOut" .flag false) <|
    .cons (defaulted "notInstalled" .flag false) .nil
  make := fun (crashed, timedOut, notInstalled, ()) => ⟨crashed, timedOut, notInstalled⟩
  view detail := (detail.crashed, detail.timedOut, detail.notInstalled, ())

def InconclusiveDetail.shape : Shape InconclusiveDetail where
  name := "InconclusiveDetail"
  members := .cons (defaulted "infrastructureFailure" .flag false) <|
    .cons (defaulted "abortedByUser" .flag false) <|
    .cons (defaulted "nativeCrash" .flag false) .nil
  make := fun (infrastructure, aborted, native, ()) => ⟨infrastructure, aborted, native⟩
  view detail := (detail.infrastructureFailure, detail.abortedByUser, detail.nativeCrash, ())

def SkippedDetail.shape : Shape SkippedDetail where
  name := "SkippedDetail"
  members := .cons (defaulted "incompatibleDevice" .flag false) <|
    .cons (defaulted "incompatibleArchitecture" .flag false) <|
    .cons (defaulted "incompatibleAppVersion" .flag false) .nil
  make := fun (device, architecture, version, ()) => ⟨device, architecture, version⟩
  view detail :=
    (detail.incompatibleDevice, detail.incompatibleArchitecture, detail.incompatibleAppVersion, ())

def Outcome.shape : Shape Outcome where
  name := "Outcome"
  members := .cons (optional "summary" OutcomeSummary.codec) <|
    .cons (optional "failureDetail" FailureDetail.shape.codec) <|
    .cons (optional "inconclusiveDetail" InconclusiveDetail.shape.codec) <|
    .cons (optional "skippedDetail" SkippedDetail.shape.codec) .nil
  make := fun (summary, failure, inconclusive, skipped, ()) =>
    ⟨summary, failure, inconclusive, skipped⟩
  view outcome := (outcome.summary, outcome.failure, outcome.inconclusive, outcome.skipped, ())

def SuiteOverview.shape : Shape SuiteOverview where
  name := "TestSuiteOverview"
  members := .cons (optional "name" .text) <| .cons (optional "totalCount" .int32) <|
    .cons (optional "errorCount" .int32) <| .cons (optional "failureCount" .int32) <|
    .cons (optional "skippedCount" .int32) .nil
  make := fun (name, total, errors, failures, skipped, ()) =>
    ⟨name, total, errors, failures, skipped⟩
  view overview :=
    (overview.name, overview.total, overview.errors, overview.failures, overview.skipped, ())

def TestExecution.shape : Shape TestExecution where
  name := "TestExecutionStep"
  members := .cons (defaulted "testSuiteOverviews" (.list SuiteOverview.shape.codec) []) .nil
  make := fun (overviews, ()) => ⟨overviews⟩
  view execution := (execution.overviews, ())

def Dimension.shape : Shape Dimension where
  name := "DimensionValue"
  members := .cons (required "key" .text) <| .cons (required "value" .text) .nil
  make := fun (key, value, ()) => ⟨key, value⟩
  view dimension := (dimension.key, dimension.value, ())

def Step.shape : Shape Step where
  name := "Step"
  members := .cons (optional "stepId" .text) <| .cons (optional "name" .text) <|
    .cons (optional "outcome" Outcome.shape.codec) <|
    .cons (optional "testExecutionStep" TestExecution.shape.codec) <|
    .cons (defaulted "dimensionValue" (.list Dimension.shape.codec) []) .nil
  make := fun (id, name, outcome, execution, dimensions, ()) =>
    ⟨id, name, outcome, execution, dimensions⟩
  view step := (step.id, step.name, step.outcome, step.execution, step.dimensions, ())

def StepPage.shape : Shape StepPage where
  name := "StepPage"
  members := .cons (defaulted "steps" (.list Step.shape.codec) []) <|
    .cons (optional "nextPageToken" .text) .nil
  make := fun (steps, nextToken, ()) => ⟨steps, nextToken⟩
  view page := (page.steps, page.nextToken, ())

def Execution.shape : Shape Execution where
  name := "Execution"
  members := .cons (optional "executionId" .text) <|
    .cons (optional "outcome" Outcome.shape.codec) .nil
  make := fun (id, outcome, ()) => ⟨id, outcome⟩
  view execution := (execution.id, execution.outcome, ())

def Recording.shape : Shape Recording where
  name := "Recording"
  members := .cons (defaulted "execution" Execution.shape.codec {}) <|
    .cons (defaulted "steps" (.list Step.shape.codec) []) .nil
  make := fun (execution, steps, ()) => ⟨execution, steps⟩
  view recording := (recording.execution, recording.steps, ())

end DeviceMatrix

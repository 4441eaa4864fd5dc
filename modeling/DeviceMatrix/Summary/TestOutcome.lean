import DeviceMatrix.Json.Codec
import DeviceMatrix.Log
import DeviceMatrix.Summary.Verdict

/-! The rows of a summary. Every step with an outcome gives one row; the rows are ordered by
label, then by details, then by axis value, and texts are compared by code point. -/
namespace DeviceMatrix

structure TestOutcome where
  label : Label
  axisValue : String
  details : String
  deriving DecidableEq, Repr

def Label.weight : Label → Nat
  | failed => 10
  | passed => 20
  | inconclusive => 30
  | skipped => 40
  | unknown => 50

namespace TestOutcome

def order (a b : TestOutcome) : Ordering :=
  (compare a.label.weight b.label.weight).then <|
    (compare a.details b.details).then <| compare a.axisValue b.axisValue

def precedes (a b : TestOutcome) : Bool := a.order b != .gt

def sort (rows : List TestOutcome) : List TestOutcome := rows.mergeSort precedes

end TestOutcome

/-- The combination that a step ran on. A dimension that is not given shows as a mark. -/
def Step.axisValue (step : Step) : String :=
  let shown (key : String) := (step.dimension? key).getD "?"
  shown "Model" ++ "-" ++ shown "Version" ++ "-" ++ shown "Locale" ++ "-" ++ shown "Orientation"

def Step.row? (step : Step) : Option TestOutcome :=
  step.classify.map fun (label, details) => ⟨label, step.axisValue, details⟩

def noResults : Line :=
  ⟨.warn, "No results found, something went wrong. Try re-running the tests."⟩

def noOutcome (step : Step) : Line :=
  ⟨.warn, "Step for [" ++ step.axisValue ++ "] had no outcome value."⟩

/-- The rows of the steps in order, and a warning for each step that has none. -/
def summarize (steps : List Step) : Logged (List TestOutcome) :=
  if steps.isEmpty then ⟨[], [noResults]⟩
  else ⟨TestOutcome.sort (steps.filterMap Step.row?),
    (steps.filter (·.row?.isNone)).map noOutcome⟩

/-- The outcome in one line: the word as reported, and the reason if there is one. -/
def Outcome.describe (outcome : Outcome) : String :=
  let word := (outcome.summary.map (·.name)).getD "unset"
  match outcome.verdict.reason? with
  | some reason => word ++ " (" ++ reason ++ ")"
  | none => word

def Label.codec : Json.Codec Label :=
  .choice ([.passed, .failed, .skipped, .inconclusive, .unknown].map fun label =>
    (label.name, label)) Label.name

open Json.Member (required) in
def TestOutcome.shape : Json.Shape TestOutcome where
  name := "TestOutcome"
  members := .cons (required "outcome" Label.codec) <| .cons (required "axis_value" .text) <|
    .cons (required "test_details" .text) .nil
  make := fun (label, axisValue, details, ()) => ⟨label, axisValue, details⟩
  view row := (row.label, row.axisValue, row.details, ())

end DeviceMatrix

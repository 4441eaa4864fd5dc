import DeviceMatrix.Proofs.Json.Layout
import DeviceMatrix.Proofs.Json.Records
import DeviceMatrix.Proofs.Summary.Canonical
import DeviceMatrix.Report.Render

/-! JSON reports loaded again. The report is laid out in lines, but it spells its rows like any
other text of them would, so that nothing of a row can be lost or moved. -/
namespace DeviceMatrix

open Json (Codec)
open Text (Symbol)

theorem Label.faithful : Label.codec.Faithful := by
  intro label
  cases label <;> rfl

namespace TestOutcome

theorem faithful : shape.codec.Faithful := by
  intro row
  apply Json.Shape.codec_returns (by decide)
  refine .cons ?label (.cons ?axisValue (.cons ?details .nil))
  case label => exact Json.Member.required_returns (Label.faithful _)
  case axisValue => exact Json.Member.required_returns (Codec.text_faithful _)
  case details => exact Json.Member.required_returns (Codec.text_faithful _)

theorem sort_sort (rows : List TestOutcome) : sort (sort rows) = sort rows :=
  sort_eq_sort_iff.mpr (sort_perm rows)

theorem sort_summarize (steps : List Step) :
    sort (summarize steps).value = (summarize steps).value := by
  rw [value_summarize, sort_sort]

end TestOutcome

def Report.load (text : String) : Except Record.Problem (List TestOutcome) :=
  (Codec.list TestOutcome.shape.codec).readText (Symbol.ofString text)

theorem Report.load_json (rows : List TestOutcome) : load (json rows) = .ok rows :=
  Codec.readText_pretty (Codec.list_faithful TestOutcome.faithful rows)

/-- A JSON report holds exactly the rows it was made of, in their order. The rows of a summary are
found in the order in which they would be sorted again. -/
theorem Report.json_loads_again :
    (∀ rows, load (json rows) = .ok rows) ∧
      ∀ steps, load (json (summarize steps).value) = .ok (summarize steps).value ∧
        (load (json (summarize steps).value)).map TestOutcome.sort =
          .ok (summarize steps).value := by
  refine ⟨load_json, fun steps => ?_⟩
  have loaded := load_json (summarize steps).value
  refine ⟨loaded, ?_⟩
  rw [loaded, Except.map, TestOutcome.sort_summarize]

/-- Without rows there is nothing to indent; a row stands in lines of its own, and what its texts
hold of quotes and line breaks is escaped. -/
example : Report.json [] = "[]" ∧
    Report.json [⟨.failed, "\"a\"-1", "x\ny"⟩] =
      "[\n  \x7b\n    \"outcome\": \"Failed\",\n    \"axis_value\": \"\\\"a\\\"-1\",\n" ++
        "    \"test_details\": \"x\\ny\"\n  \x7d\n]" := by decide +kernel

end DeviceMatrix

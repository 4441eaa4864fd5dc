import DeviceMatrix.Proofs.Results.RoundTrip
import DeviceMatrix.Proofs.Summary.Axis
import DeviceMatrix.Proofs.Summary.Wording

/-! What steps show in the rows of a summary. The texts of four dimensions come into the axis values
as they are, and any text can be in a dimension that was read from JSON. -/
namespace DeviceMatrix

/-- The axis value of the step shows the text, and not only a mark because there is none. -/
def Shows (step : Step) (text : String) : Prop :=
  step.outcome.isSome ∧ ∃ key ∈ axisKeys, step.dimension? key = some text

section

variable {c : Char} (dash : c ≠ '-') (mark : c ≠ '?')

include dash mark

theorem mem_axisValue_iff (step : Step) :
    c ∈ step.axisValue.toList ↔
      ∃ key ∈ axisKeys, ∃ text, step.dimension? key = some text ∧ c ∈ text.toList := by
  have shown (key : String) : c ∈ ((step.dimension? key).getD "?").toList ↔
      ∃ text, step.dimension? key = some text ∧ c ∈ text.toList := by
    cases step.dimension? key with
    | none => simpa using mark
    | some text => simp
  have joint : c ∉ "-".toList := mt List.mem_singleton.1 dash
  simp only [Step.axisValue, String.toList_append, List.mem_append, joint, or_false, shown,
    axisKeys, List.exists_mem_cons_iff, List.not_mem_nil, false_and, exists_false, or_assoc]

theorem mem_axisValues_iff (steps : List Step) :
    (∃ row ∈ (summarize steps).value, c ∈ row.axisValue.toList) ↔
      ∃ step ∈ steps, ∃ text, Shows step text ∧ c ∈ text.toList := by
  constructor
  · rintro ⟨row, member, within⟩
    obtain ⟨step, listed, made⟩ := mem_summarize_iff.1 member
    have some : step.outcome.isSome := by rw [← step.isSome_row?, made]; rfl
    obtain ⟨classified, -, rfl⟩ := Option.map_eq_some_iff.1 made
    obtain ⟨key, known, text, value, within⟩ := (mem_axisValue_iff dash mark step).1 within
    exact ⟨step, listed, text, ⟨some, key, known, value⟩, within⟩
  · rintro ⟨step, listed, text, ⟨some, key, known, value⟩, within⟩
    rw [← step.isSome_row?, Option.isSome_iff_exists] at some
    obtain ⟨row, made⟩ := some
    have axis : row.axisValue = step.axisValue := by
      obtain ⟨classified, -, rfl⟩ := Option.map_eq_some_iff.1 made
      rfl
    refine ⟨row, mem_summarize_iff.2 ⟨step, listed, made⟩, ?_⟩
    rw [axis, mem_axisValue_iff dash mark]
    exact ⟨key, known, text, value, within⟩

end

def stepOn (model : String) : Step where
  outcome := some {}
  dimensions := [⟨"Model", model⟩]

def stepsCodec : Json.Codec (List Step) := .list Step.shape.codec

theorem readText_stepOn (model : String) :
    stepsCodec.readText (Text.Symbol.ofString (stepsCodec.print [stepOn model])) =
      .ok [stepOn model] :=
  Json.Codec.readText_print (Json.Codec.list_returns_map Step.codec_returns [stepOn model])

theorem shows_stepOn (model : String) : Shows (stepOn model) model :=
  ⟨rfl, "Model", by decide, rfl⟩

end DeviceMatrix

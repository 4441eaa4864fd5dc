import DeviceMatrix.Proofs.Summary.Canonical

/-! What a summary keeps of its steps and what it says of those it drops. The order of the rows
is stated on its own, by the places of the labels and the numbers of the characters, and
`TestOutcome.order` decides it. -/
namespace DeviceMatrix

/-- The labels from the first to the last in a summary. -/
def Label.ranking : List Label := [.failed, .passed, .inconclusive, .skipped, .unknown]

def Label.rank (label : Label) : Nat := ranking.idxOf label

theorem Label.weight_lt_weight_iff {a b : Label} : a.weight < b.weight ↔ a.rank < b.rank := by
  cases a <;> cases b <;> decide

/-- One text comes before another by code point. -/
def TextBefore (s t : String) : Prop :=
  List.Lex (fun a b : Char => a.toNat < b.toNat) s.toList t.toList

theorem compare_eq_lt_iff {s t : String} : compare s t = .lt ↔ TextBefore s t := by
  have chars : (fun a b : Char => a.toNat < b.toNat) = (· < ·) := by
    funext a b
    exact propext (UInt32.lt_iff_toNat_lt (a := a.val) (b := b.val)).symm
  have lists : TextBefore s t ↔ s < t := by
    rw [TextBefore, chars]
    exact String.lt_iff.symm
  exact compareOfLessAndEq_eq_lt.trans lists.symm

namespace TestOutcome

/-- One row comes before another: its label does, or they share the label and its details do, or
they share these too and its axis value does. -/
inductive Before (a b : TestOutcome) : Prop where
  | label (earlier : a.label.rank < b.label.rank)
  | details (same : a.label = b.label) (earlier : TextBefore a.details b.details)
  | axis (same : a.label = b.label) (shared : a.details = b.details)
      (earlier : TextBefore a.axisValue b.axisValue)

theorem order_eq_lt_iff {a b : TestOutcome} : a.order b = .lt ↔ Before a b := by
  simp only [order, Ordering.then_eq_lt, Nat.compare_eq_lt, compare_eq_lt_iff,
    Std.LawfulEqCmp.compare_eq_iff_eq, Label.weight_lt_weight_iff]
  constructor
  · rintro (label | ⟨weight, details | ⟨shared, axis⟩⟩)
    · exact .label label
    · exact .details (Label.weight_injective weight) details
    · exact .axis (Label.weight_injective weight) shared axis
  · rintro (label | ⟨same, details⟩ | ⟨same, shared, axis⟩)
    · exact .inl label
    · exact .inr ⟨congrArg Label.weight same, .inl details⟩
    · exact .inr ⟨congrArg Label.weight same, .inr ⟨shared, axis⟩⟩

theorem precedes_iff_not_before {a b : TestOutcome} : precedes a b ↔ ¬Before b a := by
  have swap : b.order a = (a.order b).swap := Std.OrientedCmp.eq_swap
  rw [precedes_iff, ← order_eq_lt_iff, swap]
  cases a.order b <;> simp

end TestOutcome

/-- The row of a step, label and details as they were classified. -/
def Step.rowOf (step : Step) (classified : Label × String) : TestOutcome where
  label := classified.1
  axisValue := step.axisValue
  details := classified.2

theorem Step.isNone_row? (step : Step) : step.row?.isNone = step.outcome.isNone := by
  simp [Step.row?, Step.classify]

/-- Exactly the steps with an outcome have rows, so there are as many. -/
theorem length_filterMap_row? (steps : List Step) :
    (steps.filterMap Step.row?).length = steps.countP (·.outcome.isSome) := by
  rw [List.length_filterMap_eq_countP]
  congr 1
  funext step
  exact step.isSome_row?

theorem log_summarize (steps : List Step) :
    (summarize steps).log =
      if steps = [] then [noResults] else (steps.filter (·.outcome.isNone)).map noOutcome := by
  cases steps with
  | nil => rfl
  | cons step steps =>
    have dropped : (fun step : Step => step.row?.isNone) = fun step => step.outcome.isNone :=
      funext Step.isNone_row?
    simp [summarize, dropped]

/-- A summary has one row for each step with an outcome, as it was classified and with its own
axis value, and no other row. No row comes before one that stands in front of it. Whatever
step is dropped is reported, in the order of the steps; only without any steps at all it is
reported that there are none. -/
theorem summary_is_complete_and_sorted (steps : List Step) :
    (summarize steps).value.Perm
      ((steps.filter (·.outcome.isSome)).filterMap fun step => step.classify.map step.rowOf) ∧
    (summarize steps).value.length = steps.countP (·.outcome.isSome) ∧
    (summarize steps).value.Pairwise (fun earlier later => ¬later.Before earlier) ∧
    (summarize steps).log =
      if steps = [] then
        [⟨.warn, "No results found, something went wrong. Try re-running the tests."⟩]
      else (steps.filter (·.outcome.isNone)).map fun step =>
        ⟨.warn, "Step for [" ++ step.axisValue ++ "] had no outcome value."⟩ := by
  have perm : (summarize steps).value.Perm (steps.filterMap Step.row?) := by
    rw [value_summarize]
    exact TestOutcome.sort_perm _
  refine ⟨?_, ?_, ?_, log_summarize steps⟩
  · rw [← filterMap_row?_filter] at perm
    exact perm
  · rw [perm.length_eq, length_filterMap_row?]
  · rw [value_summarize]
    exact (TestOutcome.sort_pairwise _).imp TestOutcome.precedes_iff_not_before.1

end DeviceMatrix

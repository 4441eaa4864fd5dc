import DeviceMatrix.Proofs.Summary.Order
import DeviceMatrix.Summary.Fetch
import Mathlib.Data.Multiset.Defs

/-! The rows of a summary as a normal form: they say which rows the steps have and how many of
each, and nothing else. -/
namespace DeviceMatrix

/-- Without steps there are no rows to sort. -/
theorem value_summarize (steps : List Step) :
    (summarize steps).value = TestOutcome.sort (steps.filterMap Step.row?) := by
  unfold summarize
  split
  · rename_i empty
    rw [List.isEmpty_iff.mp empty]
    simp [TestOutcome.sort]
  · rfl

theorem mem_summarize_iff {steps : List Step} {row : TestOutcome} :
    row ∈ (summarize steps).value ↔ ∃ step ∈ steps, step.row? = some row := by
  rw [value_summarize, (TestOutcome.sort_perm _).mem_iff, List.mem_filterMap]

theorem value_summarize_eq_iff {xs ys : List Step} :
    (summarize xs).value = (summarize ys).value ↔
      (xs.filterMap Step.row?).Perm (ys.filterMap Step.row?) := by
  rw [value_summarize, value_summarize, TestOutcome.sort_eq_sort_iff]

theorem value_summarize_perm {xs ys : List Step} (perm : xs.Perm ys) :
    (summarize xs).value = (summarize ys).value :=
  value_summarize_eq_iff.2 (perm.filterMap _)

theorem Step.isSome_row? (step : Step) : step.row?.isSome = step.outcome.isSome := by
  simp [Step.row?, Step.classify]

theorem filterMap_row?_filter (steps : List Step) :
    (steps.filter (·.outcome.isSome)).filterMap Step.row? = steps.filterMap Step.row? := by
  induction steps with
  | nil => rfl
  | cons step steps ih =>
    have row := step.isSome_row?
    cases outcome : step.outcome with
    | none =>
      rw [outcome, Option.isSome_none, Option.isSome_eq_false_iff, Option.isNone_iff_eq_none] at row
      simp [outcome, row, ih]
    | some _ => simp [outcome, List.filterMap_cons, ih]

namespace Fetcher

theorem value_summary {σ : Type} (fetcher : Fetcher (StateM σ)) (limit : Nat) (state : σ) :
    ((fetcher.summary limit).run state).1.value =
      ((fetcher.steps limit).run state).1.value.map fun steps => (summarize steps).value := by
  rw [summary, StateT.run_bind]
  generalize (fetcher.steps limit).run state = fetched
  obtain ⟨⟨value, log⟩, next⟩ := fetched
  cases value with
  | error error => rfl
  | ok steps => rfl

end Fetcher

/-- Two lists of steps have the same summary exactly if they have the same rows, counted with
repetitions. So it matters neither in which order steps are listed, nor over which pages a source
spreads them, nor what other steps without outcome there are; and summaries can be joined by
sorting them together. -/
theorem summary_is_normal_form (xs ys : List Step) :
    ((summarize xs).value = (summarize ys).value ↔
      Multiset.ofList (xs.filterMap Step.row?) = Multiset.ofList (ys.filterMap Step.row?)) ∧
    (xs.Perm ys → (summarize xs).value = (summarize ys).value) ∧
    (∀ (σ : Type) (fetcher : Fetcher (StateM σ)) (limit : Nat) (state : σ) (steps : List Step),
      ((fetcher.steps limit).run state).1.value = .ok steps → steps.Perm xs →
        ((fetcher.summary limit).run state).1.value = .ok (summarize xs).value) ∧
    (summarize (xs.filter (·.outcome.isSome))).value = (summarize xs).value ∧
    (summarize (xs ++ ys)).value =
      TestOutcome.sort ((summarize xs).value ++ (summarize ys).value) := by
  refine ⟨?_, value_summarize_perm, ?_, ?_, ?_⟩
  · rw [value_summarize_eq_iff, Multiset.coe_eq_coe]
  · intro σ fetcher limit state steps listed perm
    rw [Fetcher.value_summary, listed, ← value_summarize_perm perm]
    rfl
  · rw [value_summarize, filterMap_row?_filter, ← value_summarize]
  · rw [value_summarize, value_summarize, value_summarize, TestOutcome.sort_eq_sort_iff,
      List.filterMap_append]
    exact ((TestOutcome.sort_perm _).append (TestOutcome.sort_perm _)).symm

/-- A skipped and a failed step, and between them one that never got an outcome. -/
def mixedSteps : List Step :=
  [{ outcome := some { summary := some .skipped } }, {},
    { outcome := some { summary := some .failure } }]

theorem summary_mixed_steps_reversed :
    mixedSteps.Perm mixedSteps.reverse ∧
    (summarize mixedSteps).value = (summarize mixedSteps.reverse).value := by
  have perm : mixedSteps.Perm mixedSteps.reverse := mixedSteps.reverse_perm.symm
  exact ⟨perm, (summary_is_normal_form mixedSteps mixedSteps.reverse).2.1 perm⟩

end DeviceMatrix

import DeviceMatrix.Summary.TestOutcome
import Mathlib.Data.List.Chain

/-! Rows are ordered by three keys, and rows that are equal in all three are the same row. So the
order is linear, and a list of rows has one sorted form. -/
namespace DeviceMatrix

theorem Label.weight_injective {a b : Label} (same : a.weight = b.weight) : a = b := by
  cases a <;> cases b <;> first | rfl | exact absurd same (by decide)

namespace TestOutcome

theorem order_eq_compareLex :
    order = compareLex (compareOn fun row => row.label.weight)
      (compareLex (compareOn (·.details)) (compareOn (·.axisValue))) := rfl

instance : Std.TransCmp order := by
  rw [order_eq_compareLex]
  infer_instance

instance : Std.LawfulEqCmp order where
  compare_self := by simp [order]
  eq_of_compare {a b} same := by
    simp only [order, Ordering.then_eq_eq, Std.LawfulEqCmp.compare_eq_iff_eq] at same
    obtain ⟨weight, details, axis⟩ := same
    have label := Label.weight_injective weight
    cases a
    cases b
    simp_all

theorem precedes_iff {a b : TestOutcome} : precedes a b ↔ (a.order b).isLE := by
  cases place : a.order b <;> simp [precedes, place]

theorem precedes_trans (a b c : TestOutcome) (first : precedes a b) (second : precedes b c) :
    precedes a c := by
  rw [precedes_iff] at *
  exact Std.TransCmp.isLE_trans first second

theorem precedes_total (a b : TestOutcome) : precedes a b || precedes b a := by
  have swap : b.order a = (a.order b).swap := Std.OrientedCmp.eq_swap
  rw [Bool.or_eq_true, precedes_iff, precedes_iff, swap]
  cases a.order b <;> simp

theorem precedes_antisymm {a b : TestOutcome} (before : precedes a b) (after : precedes b a) :
    a = b := by
  rw [precedes_iff] at *
  exact Std.LawfulEqCmp.eq_of_compare (Std.OrientedCmp.isLE_antisymm before after)

theorem sort_perm (rows : List TestOutcome) : (sort rows).Perm rows := List.mergeSort_perm ..

theorem sort_pairwise (rows : List TestOutcome) :
    (sort rows).Pairwise fun a b => precedes a b :=
  List.pairwise_mergeSort precedes_trans precedes_total rows

theorem eq_sort_of_pairwise {rows sorted : List TestOutcome} (perm : sorted.Perm rows)
    (ordered : sorted.Pairwise fun a b => precedes a b) : sorted = sort rows := by
  refine List.Perm.eq_of_pairwise ?_ ordered (sort_pairwise rows) ?_
  · exact fun a b _ _ before after => precedes_antisymm before after
  · exact perm.trans (sort_perm rows).symm

/-- The sorted rows tell which rows there were, and nothing of their order. -/
theorem sort_eq_sort_iff {xs ys : List TestOutcome} : sort xs = sort ys ↔ xs.Perm ys := by
  constructor
  · intro same
    exact (sort_perm xs).symm.trans (same ▸ sort_perm ys)
  · intro perm
    exact eq_sort_of_pairwise ((sort_perm xs).trans perm) (sort_pairwise xs)

theorem precedes_iff_ne_gt {a b : TestOutcome} : precedes a b ↔ a.order b ≠ .gt := bne_iff_ne

theorem order_eq_iff {a b : TestOutcome} : a.order b = .eq ↔ a = b :=
  Std.LawfulEqCmp.compare_eq_iff_eq

/-- Of two rows one comes before the other, unless they are the same row, and the comparison the
other way round says so too. -/
theorem order_cases (a b : TestOutcome) :
    (a.order b = .lt ∧ b.order a = .gt ∧ a ≠ b) ∨
    (a.order b = .eq ∧ b.order a = .eq ∧ a = b) ∨
    (a.order b = .gt ∧ b.order a = .lt ∧ a ≠ b) := by
  have swap : b.order a = (a.order b).swap := Std.OrientedCmp.eq_swap
  rw [swap]
  cases place : a.order b with
  | lt =>
    have apart : a ≠ b := mt order_eq_iff.mpr (by rw [place]; decide)
    exact .inl ⟨rfl, rfl, apart⟩
  | eq => exact .inr (.inl ⟨rfl, rfl, order_eq_iff.mp place⟩)
  | gt =>
    have apart : a ≠ b := mt order_eq_iff.mpr (by rw [place]; decide)
    exact .inr (.inr ⟨rfl, rfl, apart⟩)

instance : Trans (fun a b => precedes a b = true) (fun a b => precedes a b = true)
    (fun a b => precedes a b = true) :=
  ⟨fun first second => precedes_trans _ _ _ first second⟩

theorem pairwise_of_isChain {rows : List TestOutcome}
    (chain : rows.IsChain fun earlier later => earlier.order later ≠ .gt) :
    rows.Pairwise fun earlier later => precedes earlier later := by
  have neighbours := chain.imp fun _ _ => precedes_iff_ne_gt.mpr
  exact neighbours.pairwise

/-- The order is linear. Exactly one of the three answers is given, and the opposite one the other
way round; not coming after passes from row to row, whatever labels and texts they have; and
only rows that agree in all three fields are in the same place. So every list of rows has exactly
one arrangement in which no row comes after its neighbour. Any way to sort finds this one, whether
it keeps rows of the same place in their order or not. -/
theorem order_is_linear (a b c : TestOutcome) (rows sorted : List TestOutcome) :
    ((a.order b = .lt ∧ b.order a = .gt ∧ a ≠ b) ∨
      (a.order b = .eq ∧ b.order a = .eq ∧ a = b) ∨
      (a.order b = .gt ∧ b.order a = .lt ∧ a ≠ b)) ∧
    (a.order b ≠ .gt → b.order c ≠ .gt → a.order c ≠ .gt) ∧
    (a.order b = .eq ↔ a.label = b.label ∧ a.axisValue = b.axisValue ∧ a.details = b.details) ∧
    (sorted.Perm rows ∧ sorted.IsChain (fun earlier later => earlier.order later ≠ .gt) ↔
      sorted = sort rows) := by
  refine ⟨order_cases a b, ?_, ?_, ?_, ?_⟩
  · intro first second
    rw [← precedes_iff_ne_gt] at *
    exact precedes_trans a b c first second
  · rw [order_eq_iff, TestOutcome.mk.injEq]
  · rintro ⟨perm, chain⟩
    exact eq_sort_of_pairwise perm (pairwise_of_isChain chain)
  · rintro rfl
    have chain := (sort_pairwise rows).isChain
    exact ⟨sort_perm rows, chain.imp fun _ _ => precedes_iff_ne_gt.mp⟩

def scatteredRows : List TestOutcome :=
  [⟨.skipped, "b", "Unknown reason"⟩, ⟨.passed, "b", "--"⟩, ⟨.failed, "a", "Test timed out"⟩,
    ⟨.passed, "a", "--"⟩, ⟨.failed, "b", "Application crashed"⟩, ⟨.passed, "b", "--"⟩]

theorem sort_scattered_rows :
    sort scatteredRows =
      [⟨.failed, "b", "Application crashed"⟩, ⟨.failed, "a", "Test timed out"⟩,
        ⟨.passed, "a", "--"⟩, ⟨.passed, "b", "--"⟩, ⟨.passed, "b", "--"⟩,
        ⟨.skipped, "b", "Unknown reason"⟩] := by
  have row : TestOutcome := ⟨.passed, "a", "--"⟩
  refine ((order_is_linear row row row scatteredRows _).2.2.2.mp ⟨?_, ?_⟩).symm
  · decide
  · decide

end TestOutcome
end DeviceMatrix

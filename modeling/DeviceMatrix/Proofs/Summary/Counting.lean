import DeviceMatrix.Proofs.Summary.Breakdown

/-! Counting in 64 bits. Up to 2^30 suites nothing that comes up on the way is too large for 64
bits: no sum over the suites so far, and nothing that is left of the total while the other sums are
taken from it. So a step is classified as integers of any size would have it. One suite more can
leave too much of the total. -/
namespace DeviceMatrix

/-- 64 bits hold the integer. -/
def Fits (n : Int) : Prop := -2 ^ 63 ≤ n ∧ n < 2 ^ 63

theorem fits_toInt (n : Int64) : Fits n.toInt := ⟨n.le_toInt, n.toInt_lt⟩

theorem toInt_sub_of_fits {a b : Int64} (fits : Fits (a.toInt - b.toInt)) :
    (a - b).toInt = a.toInt - b.toInt := by
  have cut : a - b = Int64.ofInt (a.toInt - b.toInt) := by
    rw [Int64.ofInt_sub, Int64.ofInt_toInt, Int64.ofInt_toInt]
  rw [cut]
  exact Int64.toInt_ofInt_of_le fits.1 fits.2

/-! Sums of any size. -/

/-- The four sums over suites, as integers of any size. -/
structure Tallies where
  total : Int
  errors : Int
  failures : Int
  skipped : Int

/-- The sums over some suites. -/
def tallies (suites : List SuiteOverview) : Tallies :=
  ⟨tally (·.total) suites, tally (·.errors) suites, tally (·.failures) suites,
    tally (·.skipped) suites⟩

namespace Tallies

def toList (sums : Tallies) : List Int := [sums.total, sums.errors, sums.failures, sums.skipped]

/-- What is left of the total when the other sums are taken from it one by one. -/
def remainders (sums : Tallies) : List Int :=
  [sums.total - sums.errors, sums.total - sums.errors - sums.failures,
    sums.total - sums.errors - sums.failures - sums.skipped]

def passed (sums : Tallies) : Int :=
  sums.total - sums.errors - sums.failures - sums.skipped

end Tallies

namespace SuiteCounts

def tallies (counts : SuiteCounts) : Tallies :=
  ⟨counts.total.toInt, counts.errors.toInt, counts.failures.toInt, counts.skipped.toInt⟩

/-- What is left of the total in 64 bits. -/
def remainders (counts : SuiteCounts) : List Int64 :=
  [counts.total - counts.errors, counts.total - counts.errors - counts.failures, counts.passed]

end SuiteCounts

/-- Counting suites never leaves 64 bits: whatever comes up in integers of any size fits, and it is
what comes up in 64 bits. -/
structure CountsExactly (suites : List SuiteOverview) : Prop where
  sums : ∀ front, front <+: suites →
    (∀ sum ∈ (tallies front).toList, Fits sum) ∧ (SuiteCounts.sum front).tallies = tallies front
  rest : (∀ left ∈ (tallies suites).remainders, Fits left) ∧
    (SuiteCounts.sum suites).remainders.map Int64.toInt = (tallies suites).remainders

section

variable {suites : List SuiteOverview} (few : suites.length ≤ 2 ^ 30)

include few

theorem tallies_sum : (SuiteCounts.sum suites).tallies = tallies suites := by
  have exact := toInt_ofInt_tally few
  rw [SuiteCounts.sum, SuiteCounts.foldl_add]
  simp only [SuiteCounts.tallies, Int64.zero_add, exact, tallies]

theorem fits_of_mem_toList {sum : Int} (member : sum ∈ (tallies suites).toList) : Fits sum := by
  rw [← tallies_sum few] at member
  simp only [Tallies.toList, SuiteCounts.tallies, List.mem_cons, List.not_mem_nil, or_false]
    at member
  rcases member with rfl | rfl | rfl | rfl <;> exact fits_toInt _

/-- At worst the total is the greatest and the others are the least they can be, or the other way
round; a number of 32 bits goes one further down than up. -/
theorem fits_of_mem_remainders {left : Int} (member : left ∈ (tallies suites).remainders) :
    Fits left := by
  obtain ⟨_, _⟩ := tally_between (·.total) suites
  obtain ⟨_, _⟩ := tally_between (·.errors) suites
  obtain ⟨_, _⟩ := tally_between (·.failures) suites
  obtain ⟨_, _⟩ := tally_between (·.skipped) suites
  simp only [Tallies.remainders, tallies, List.mem_cons, List.not_mem_nil, or_false] at member
  rcases member with rfl | rfl | rfl <;> constructor <;> omega

theorem remainders_sum :
    (SuiteCounts.sum suites).remainders.map Int64.toInt = (tallies suites).remainders := by
  have same := tallies_sum few
  have fits (left : Int) (member : left ∈ (SuiteCounts.sum suites).tallies.remainders) :
      Fits left := by
    rw [same] at member
    exact fits_of_mem_remainders few member
  rw [← same]
  simp only [Tallies.remainders, SuiteCounts.tallies, List.mem_cons, List.not_mem_nil, or_false]
    at fits
  have first := toInt_sub_of_fits (fits _ (.inl rfl))
  have second := toInt_sub_of_fits (first ▸ fits _ (.inr (.inl rfl)))
  have third := toInt_sub_of_fits (second ▸ first ▸ fits _ (.inr (.inr rfl)))
  simp only [SuiteCounts.remainders, SuiteCounts.passed, List.map_cons, List.map_nil, third, second,
    first, Tallies.remainders, SuiteCounts.tallies]

theorem countsExactly : CountsExactly suites where
  sums front before :=
    have fewer : front.length ≤ 2 ^ 30 := Nat.le_trans before.length_le few
    ⟨fun _ => fits_of_mem_toList fewer, tallies_sum fewer⟩
  rest := ⟨fun _ => fits_of_mem_remainders few, remainders_sum few⟩

end

/-! Details of any size. -/

def tallied (n : Int) (what : String) : String := Decimal.ofInt n ++ " " ++ what

def talliedPart (n : Int) (what : String) : String := if 0 < n then ", " ++ tallied n what else ""

def Tallies.breakdown (sums : Tallies) : String :=
  tallied sums.failures "test cases failed" ++ talliedPart sums.passed "passed" ++
    talliedPart sums.errors "errors" ++ talliedPart sums.skipped "skipped"

/-- The details of a verdict, counted in integers of any size. -/
def Verdict.detailsOf (verdict : Verdict) (step : Step) : String :=
  let sums := tallies step.suites
  match verdict with
  | success => if 0 < sums.total then tallied sums.total "test cases passed" else "--"
  | failure _ => verdict.reason?.getD <|
      if step.execution.isNone then "Unknown failure"
      else if sums.total = 0 then "Test failed to run"
      else sums.breakdown
  | inconclusive _ | skipped _ => verdict.reason?.getD "Unknown reason"
  | unrecognized => "Unknown outcome"

theorem talliedPart_toInt (n : Int64) (what : String) : talliedPart n.toInt what = part n what := by
  have positive : n > 0 ↔ 0 < n.toInt := by
    rw [gt_iff_lt, Int64.lt_iff_toInt_lt, Int64.toInt_zero]
  simp only [talliedPart, part, positive]
  rfl

theorem breakdown_tallies {step : Step} (few : step.suites.length ≤ 2 ^ 30) :
    (tallies step.suites).breakdown = step.counts.breakdown := by
  obtain ⟨-, errors, failures, skipped, passed⟩ := Step.exact few
  have left : (tallies step.suites).passed = step.counts.passed.toInt := passed.symm
  simp only [Tallies.breakdown, left]
  simp only [tallies, ← errors, ← failures, ← skipped, talliedPart_toInt]
  rfl

theorem details_eq_detailsOf {step : Step} (few : step.suites.length ≤ 2 ^ 30)
    (verdict : Verdict) : verdict.details step.execution = verdict.detailsOf step := by
  have total := (Step.exact few).total
  have zero : step.counts.total = 0 ↔ (tallies step.suites).total = 0 := by
    rw [← Int64.toInt_inj, total, Int64.toInt_zero]
    rfl
  have positive : step.counts.total > 0 ↔ 0 < (tallies step.suites).total := by
    rw [gt_iff_lt, Int64.lt_iff_toInt_lt, total, Int64.toInt_zero]
    rfl
  cases verdict with
  | success =>
    simp only [Verdict.details, Verdict.detailsOf, ← positive]
    simp only [tallies, ← total]
    rfl
  | failure detail =>
    simp only [Verdict.details, Verdict.detailsOf, ← zero, breakdown_tallies few]
    rfl
  | inconclusive | skipped | unrecognized => rfl

/-- Some suites that leave the most of the total: it is as large as it can be, all others are
negative and as small as they can be. -/
def extremes (n : Nat) : List SuiteOverview :=
  List.replicate n
    { total := some Int32.maxValue, errors := some Int32.minValue
      failures := some Int32.minValue, skipped := some Int32.minValue }

theorem passed_extremes (n : Nat) : (tallies (extremes n)).passed = n * (2 ^ 33 - 1) := by
  simp only [Tallies.passed, tallies, tally, extremes, List.map_replicate, List.sum_replicate,
    Option.getD_some, nsmul_eq_mul]
  have most : Int32.maxValue.toInt = 2 ^ 31 - 1 := by decide
  have least : Int32.minValue.toInt = -2 ^ 31 := by decide
  rw [most, least]
  omega

/-- Nothing that comes up leaves 64 bits, whatever the counters of the suites are, exactly if there
are at most 2^30 suites. So many are classified as by integers of any size. -/
theorem counting_fits_iff (n : Nat) :
    ((∀ suites : List SuiteOverview, suites.length = n → CountsExactly suites) ↔ n ≤ 2 ^ 30) ∧
    (n ≤ 2 ^ 30 → ∀ step : Step, step.suites.length = n →
      step.classify = step.outcome.map fun outcome =>
        (outcome.verdict.label, outcome.verdict.detailsOf step)) := by
  refine ⟨⟨fun exact => ?_, ?_⟩, ?_⟩
  · have member : (tallies (extremes n)).passed ∈ (tallies (extremes n)).remainders := by
      simp [Tallies.passed, Tallies.remainders]
    obtain ⟨-, below⟩ := (exact (extremes n) List.length_replicate).rest.1 _ member
    rw [passed_extremes] at below
    omega
  · rintro few suites rfl
    exact countsExactly few
  · rintro few step rfl
    simp only [Step.classify, details_eq_detailsOf few]

def extremeStep : Step where
  outcome := some { summary := some .failure }
  execution := some ⟨extremes 2⟩

theorem counting_of_extremes :
    CountsExactly extremeStep.suites ∧
    extremeStep.classify =
      some (.failed, "-4294967296 test cases failed, 17179869182 passed") ∧
    ¬∀ suites : List SuiteOverview, suites.length = 2 ^ 30 + 1 → CountsExactly suites := by
  obtain ⟨exact, classified⟩ := counting_fits_iff 2
  have text : (extremeStep.outcome.map fun outcome =>
      (outcome.verdict.label, outcome.verdict.detailsOf extremeStep)) =
        some (.failed, "-4294967296 test cases failed, 17179869182 passed") := by
    decide +kernel
  refine ⟨exact.2 (by decide) _ rfl, (classified (by decide) extremeStep rfl).trans text, ?_⟩
  exact mt (counting_fits_iff (2 ^ 30 + 1)).1.1 (by decide)

end DeviceMatrix

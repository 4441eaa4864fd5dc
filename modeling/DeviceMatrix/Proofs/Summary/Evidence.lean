import DeviceMatrix.Summary.Verdict
import Mathlib.Algebra.BigOperators.Group.List.Basic
import Mathlib.Algebra.Ring.Int.Defs

/-! What the classification of a step can depend on: the word of its outcome, the flags of the one
record that belongs to this word, and the sums of its counters. The sums are taken in the integers
and cut to 64 bits once, at the end, so that neither the order nor the grouping of the suites can
matter. -/
namespace DeviceMatrix

/-! Words. -/

/-- The words that a classification tells apart. An outcome that is unset, and one with a word that
no one knows, are as good as one without any word. -/
inductive Word where
  | success
  | failure
  | inconclusive
  | skipped
  | none
  deriving DecidableEq, Repr

def Outcome.word (outcome : Outcome) : Word :=
  match outcome.summary with
  | some .success => .success
  | some .failure => .failure
  | some .inconclusive => .inconclusive
  | some .skipped => .skipped
  | some .unset | some (.unrecognized _) | none => .none

theorem Outcome.verdict_eq (outcome : Outcome) :
    outcome.verdict = match outcome.word with
      | .success => .success
      | .failure => .failure outcome.failure
      | .inconclusive => .inconclusive outcome.inconclusive
      | .skipped => .skipped outcome.skipped
      | .none => .unrecognized := by
  unfold verdict word
  cases outcome.summary with
  | none => rfl
  | some summary => cases summary <;> rfl

/-! Flags. -/

/-- Three flags, in the order in which a record declares them. -/
abbrev Flags := Bool × Bool × Bool

def noFlag : Flags := (false, false, false)

def FailureDetail.flags (detail : FailureDetail) : Flags :=
  (detail.crashed, detail.timedOut, detail.notInstalled)

def InconclusiveDetail.flags (detail : InconclusiveDetail) : Flags :=
  (detail.infrastructureFailure, detail.abortedByUser, detail.nativeCrash)

def SkippedDetail.flags (detail : SkippedDetail) : Flags :=
  (detail.incompatibleDevice, detail.incompatibleArchitecture, detail.incompatibleAppVersion)

/-- The flags of the record that belongs to the word; an absent record has none set. -/
def Outcome.flags (outcome : Outcome) : Flags :=
  match outcome.word with
  | .failure => (outcome.failure.map (·.flags)).getD noFlag
  | .inconclusive => (outcome.inconclusive.map (·.flags)).getD noFlag
  | .skipped => (outcome.skipped.map (·.flags)).getD noFlag
  | .success | .none => noFlag

/-- The reason that a word and three flags give. -/
def reasonOf (word : Word) (flags : Flags) : Option String :=
  match word with
  | .failure => FailureDetail.reason? ⟨flags.1, flags.2.1, flags.2.2⟩
  | .inconclusive => InconclusiveDetail.reason? ⟨flags.1, flags.2.1, flags.2.2⟩
  | .skipped => SkippedDetail.reason? ⟨flags.1, flags.2.1, flags.2.2⟩
  | .success | .none => Option.none

/-- An absent record and one without a flag take different paths to the same reason. -/
theorem Outcome.reason?_verdict (outcome : Outcome) :
    outcome.verdict.reason? = reasonOf outcome.word outcome.flags := by
  rw [verdict_eq, flags]
  cases outcome.word with
  | failure => cases outcome.failure <;> rfl
  | inconclusive => cases outcome.inconclusive <;> rfl
  | skipped => cases outcome.skipped <;> rfl
  | success | none => rfl

theorem reasonOf_eq_none {word : Word} (flagged : word ≠ .success ∧ word ≠ .none) {flags : Flags} :
    reasonOf word flags = none ↔ flags = noFlag := by
  obtain ⟨first, second, third⟩ := flags
  cases word with
  | failure | inconclusive | skipped =>
    cases first <;> cases second <;> cases third <;> decide
  | success => exact absurd rfl flagged.1
  | none => exact absurd rfl flagged.2

theorem reasonOf_failure_eq_none {flags : Flags} :
    reasonOf .failure flags = none ↔ flags = noFlag :=
  reasonOf_eq_none (by decide)

theorem Outcome.reason?_eq_none_iff {outcome : Outcome} :
    outcome.verdict.reason? = none ↔ outcome.flags = noFlag := by
  rw [reason?_verdict]
  cases word : outcome.word with
  | failure | inconclusive | skipped => exact reasonOf_eq_none (by decide)
  | success | none =>
    rw [flags, word]
    exact iff_of_true rfl rfl

theorem Verdict.details_of_reason? {verdict : Verdict} {reason : String}
    (given : verdict.reason? = some reason) (execution : Option TestExecution) :
    verdict.details execution = reason := by
  cases verdict with
  | failure | inconclusive | skipped => simp only [details, given, Option.getD_some]
  | success | unrecognized => contradiction

def passedText (total : Int64) : String :=
  if total > 0 then counted total "test cases passed" else "--"

theorem Outcome.details_of_success {outcome : Outcome} (passed : outcome.word = .success)
    (execution : Option TestExecution) :
    outcome.verdict.details execution = passedText (suiteCounts execution).total := by
  rw [verdict_eq, passed]
  rfl

theorem Outcome.details_of_failure {outcome : Outcome} (failed : outcome.word = .failure)
    (execution : Option TestExecution) :
    outcome.verdict.details execution =
      (reasonOf .failure outcome.flags).getD (failureBreakdown execution) := by
  rw [← failed, ← reason?_verdict, verdict_eq, failed]
  rfl

theorem Outcome.details_eq_of_word {x y : Outcome} (word : x.word = y.word)
    (flags : x.flags = y.flags) (success : x.word ≠ .success) (failure : x.word ≠ .failure)
    (first second : Option TestExecution) :
    x.verdict.details first = y.verdict.details second := by
  have reason : x.verdict.reason? = y.verdict.reason? := by
    rw [reason?_verdict, reason?_verdict, word, flags]
  rw [verdict_eq x, verdict_eq y, ← word] at reason ⊢
  cases kind : x.word with
  | success => contradiction
  | failure => contradiction
  | inconclusive =>
    rw [kind] at reason
    exact congrArg (·.getD "Unknown reason") reason
  | skipped =>
    rw [kind] at reason
    exact congrArg (·.getD "Unknown reason") reason
  | none => rfl

/-! Sums. -/

def Step.suites (step : Step) : List SuiteOverview := (step.execution.map (·.overviews)).getD []

/-- The sum of a counter over suites, where a counter that is missing counts as zero. -/
def tally (counter : SuiteOverview → Option Int32) (suites : List SuiteOverview) : Int :=
  (suites.map fun overview => ((counter overview).getD 0).toInt).sum

theorem SuiteCounts.count_eq (counter : Option Int32) :
    count counter = Int64.ofInt (counter.getD 0).toInt := by
  rw [count, ← Int32.toInt_toInt64, Int64.ofInt_toInt]

/-- Cutting to 64 bits commutes with adding, so it may as well be done last. -/
theorem SuiteCounts.foldl_add (suites : List SuiteOverview) (counts : SuiteCounts) :
    suites.foldl add counts =
      ⟨counts.total + Int64.ofInt (tally (·.total) suites),
        counts.errors + Int64.ofInt (tally (·.errors) suites),
        counts.failures + Int64.ofInt (tally (·.failures) suites),
        counts.skipped + Int64.ofInt (tally (·.skipped) suites)⟩ := by
  induction suites generalizing counts with
  | nil => simp [tally]
  | cons overview suites ih =>
    rw [List.foldl_cons, ih]
    simp only [add, tally, List.map_cons, List.sum_cons, Int64.ofInt_add, count_eq, Int64.add_assoc]

theorem suiteCounts_eq (step : Step) :
    suiteCounts step.execution =
      ⟨Int64.ofInt (tally (·.total) step.suites), Int64.ofInt (tally (·.errors) step.suites),
        Int64.ofInt (tally (·.failures) step.suites),
        Int64.ofInt (tally (·.skipped) step.suites)⟩ := by
  rw [suiteCounts, SuiteCounts.sum, SuiteCounts.foldl_add]
  simp only [Int64.zero_add, Step.suites]

/-- The four sums that a breakdown is made of. -/
structure SameTallies (a b : List SuiteOverview) : Prop where
  total : tally (·.total) a = tally (·.total) b
  errors : tally (·.errors) a = tally (·.errors) b
  failures : tally (·.failures) a = tally (·.failures) b
  skipped : tally (·.skipped) a = tally (·.skipped) b

theorem failureBreakdown_eq {a b : Step} (present : a.execution.isSome = b.execution.isSome)
    (same : SameTallies a.suites b.suites) :
    failureBreakdown a.execution = failureBreakdown b.execution := by
  have absent : a.execution.isNone = b.execution.isNone := by
    rw [← Option.not_isSome, present, Option.not_isSome]
  have counts : suiteCounts a.execution = suiteCounts b.execution := by
    rw [suiteCounts_eq, suiteCounts_eq, same.total, same.errors, same.failures, same.skipped]
  rw [failureBreakdown, absent, counts]
  rfl

/-- Two steps are classified alike if their outcomes have the same word and the records that belong
to it the same flags, as long as successes count the same total, and failures that no flag explains
have suites or have none together and agree in all four sums. Nothing else of a step is looked at:
not its names and dimensions, no record of another word, no other counter, and of the suites only
what they sum up to. -/
theorem classify_depends_on_evidence {a b : Step} {x y : Outcome} (first : a.outcome = some x)
    (second : b.outcome = some y) (word : x.word = y.word) (flags : x.flags = y.flags)
    (passed : x.word = .success → tally (·.total) a.suites = tally (·.total) b.suites)
    (failed : x.word = .failure → x.flags = noFlag →
      a.execution.isSome = b.execution.isSome ∧ SameTallies a.suites b.suites) :
    a.classify = b.classify := by
  have label : x.verdict.label = y.verdict.label := by
    rw [x.verdict_eq, y.verdict_eq, word]
    cases y.word <;> rfl
  have details : x.verdict.details a.execution = y.verdict.details b.execution := by
    by_cases success : x.word = .success
    · rw [Outcome.details_of_success success, Outcome.details_of_success (word ▸ success),
        suiteCounts_eq, suiteCounts_eq, passed success]
    by_cases failure : x.word = .failure
    · rw [Outcome.details_of_failure failure, Outcome.details_of_failure (word ▸ failure), ← flags]
      cases reason : reasonOf .failure x.flags with
      | some text => rw [Option.getD_some, Option.getD_some]
      | none =>
        obtain ⟨present, same⟩ := failed failure (reasonOf_failure_eq_none.mp reason)
        rw [failureBreakdown_eq present same]
    · exact Outcome.details_eq_of_word word flags success failure _ _
  rw [Step.classify, Step.classify, first, second, Option.map_some, Option.map_some, label, details]

/-- A failure with a record of another word, told suite by suite. -/
def splitFailure : Step where
  name := some "first"
  outcome := some { summary := some .failure, skipped := some ⟨true, true, true⟩ }
  execution := some ⟨[{ total := some 3, failures := some 2 },
    { name := some "more", total := some 4, failures := some (-1), skipped := some 0 }]⟩

/-- A failure whose record has no flag, with everything in one suite. -/
def joinedFailure : Step where
  outcome := some { summary := some .failure, failure := some ⟨false, false, false⟩ }
  execution := some ⟨[{ total := some 7, failures := some 1 }]⟩

theorem split_failure_reads_like_joined :
    SameTallies splitFailure.suites joinedFailure.suites ∧
      splitFailure.classify = joinedFailure.classify ∧
      joinedFailure.classify = some (.failed, "1 test cases failed, 6 passed") := by
  have same : SameTallies splitFailure.suites joinedFailure.suites := by
    constructor <;> decide
  refine ⟨same, ?_, by decide +kernel⟩
  have first : splitFailure.outcome = some _ := rfl
  have second : joinedFailure.outcome = some _ := rfl
  apply classify_depends_on_evidence first second rfl rfl
  · intro passed
    contradiction
  · intro _ _
    exact ⟨rfl, same⟩

end DeviceMatrix

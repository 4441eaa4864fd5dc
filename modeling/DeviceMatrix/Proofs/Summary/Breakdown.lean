import DeviceMatrix.Proofs.Summary.Evidence
import DeviceMatrix.Proofs.Text.Decimal

/-! The breakdown of a failure read back. It is cut at its commas, and each part says a number and
what it counts; so the text determines the failures and every other count that is positive, and no
other text that a failure can have is read as a breakdown. -/
namespace DeviceMatrix

/-! Reading. -/

/-- A part of a breakdown: a number, a blank and what is counted. -/
def readPart? (part : List Char) : Option (Int × String) :=
  let (number, what) := (part.dropWhile (· = ' ')).span (· ≠ ' ')
  (Decimal.integer? number).map fun n => (n, String.ofList (what.drop 1))

/-- The parts of a breakdown, which are set apart by commas. -/
def readBreakdown? (text : String) : Option (List (Int × String)) :=
  (text.toList.splitOn ',').mapM readPart?

def spell (said : Int × String) : List Char := Decimal.signed said.1 ++ ' ' :: said.2.toList

/-- The number ends at the first blank, and what is counted is all that follows. -/
theorem readPart?_spell (said : Int × String) :
    readPart? (spell said) = some said ∧ readPart? (' ' :: spell said) = some said := by
  obtain ⟨n, what⟩ := said
  have plain : ∀ c ∈ Decimal.signed n, decide (c ≠ ' ') = true := by
    intro c member
    simpa using ne_of_mem_of_not_mem member (Decimal.not_mem_signed (by decide) (by decide) n)
  have unpadded : (spell (n, what)).dropWhile (· = ' ') = spell (n, what) := by
    obtain ⟨c, rest, shape⟩ := List.exists_cons_of_ne_nil (Decimal.signed_ne_nil n)
    have first : c ≠ ' ' := by simpa using plain c (by rw [shape]; exact List.mem_cons_self)
    rw [spell, shape, List.cons_append, List.dropWhile_cons_of_neg (by simpa using first)]
  have parted : (spell (n, what)).span (· ≠ ' ') = (Decimal.signed n, ' ' :: what.toList) := by
    rw [List.span_eq_takeWhile_dropWhile, spell, List.takeWhile_append_of_pos plain,
      List.dropWhile_append_of_pos plain]
    simp
  have padded : (' ' :: spell (n, what)).dropWhile (· = ' ') = spell (n, what) := by
    rw [List.dropWhile_cons_of_pos (by decide), unpadded]
  constructor
  · rw [readPart?, unpadded, parted]
    simp [Decimal.integer?_signed]
  · rw [readPart?, padded, parted]
    simp [Decimal.integer?_signed]

/-! What is said. -/

/-- A number that is said only if it counts something. -/
def said (n : Int) (what : String) : List (Int × String) := if 0 < n then [(n, what)] else []

/-- What a breakdown says of some counts: the failures always, the others if there are any. -/
def SuiteCounts.parts (counts : SuiteCounts) : List (Int × String) :=
  said counts.passed.toInt "passed" ++ said counts.errors.toInt "errors" ++
    said counts.skipped.toInt "skipped"

theorem toList_part (n : Int64) (what : String) :
    (part n what).toList = (said n.toInt what).flatMap (',' :: ' ' :: spell ·) := by
  have positive : n > 0 ↔ 0 < n.toInt := by
    rw [gt_iff_lt, Int64.lt_iff_toInt_lt, Int64.toInt_zero]
  by_cases counts : n > 0
  · rw [part, if_pos counts, said, if_pos (positive.mp counts)]
    simp [counted, spell, Decimal.ofInt]
  · rw [part, if_neg counts, said, if_neg (mt positive.mpr counts)]
    rfl

theorem mem_parts {counts : SuiteCounts} {part : Int × String} (member : part ∈ counts.parts) :
    part.2 = "passed" ∨ part.2 = "errors" ∨ part.2 = "skipped" := by
  have named {n : Int} {what : String} (found : part ∈ said n what) : part.2 = what := by
    unfold said at found
    split at found
    · rw [List.mem_singleton.mp found]
    · contradiction
  rw [SuiteCounts.parts, List.mem_append, List.mem_append] at member
  rcases member with (passed | errors) | skipped
  · exact .inl (named passed)
  · exact .inr (.inl (named errors))
  · exact .inr (.inr (named skipped))

theorem not_mem_spell {what : String} (plain : ',' ∉ what.toList) (n : Int) :
    ',' ∉ spell (n, what) := by
  intro member
  rcases List.mem_append.mp member with number | rest
  · exact Decimal.not_mem_signed (by decide) (by decide) n number
  · rcases List.mem_cons.mp rest with blank | inside
    · exact absurd blank (by decide)
    · exact plain inside

theorem intercalate_cons (sep first : List Char) (rest : List (List Char)) :
    sep.intercalate (first :: rest) = first ++ rest.flatMap (sep ++ ·) := by
  induction rest generalizing first with
  | nil => simp
  | cons second rest ih =>
    rw [List.intercalate_cons_cons, ih, List.flatMap_cons, List.append_assoc, List.append_assoc]

/-- The breakdown of some counts. -/
def SuiteCounts.breakdown (counts : SuiteCounts) : String :=
  counted counts.failures "test cases failed" ++ part counts.passed "passed" ++
    part counts.errors "errors" ++ part counts.skipped "skipped"

theorem toList_breakdown (counts : SuiteCounts) :
    counts.breakdown.toList =
      [','].intercalate (spell (counts.failures.toInt, "test cases failed") ::
        counts.parts.map (' ' :: spell ·)) := by
  have failed : (counted counts.failures "test cases failed").toList =
      spell (counts.failures.toInt, "test cases failed") := by
    simp [counted, spell, Decimal.ofInt]
  rw [SuiteCounts.breakdown, String.toList_append, String.toList_append, String.toList_append,
    failed, toList_part, toList_part, toList_part, intercalate_cons, SuiteCounts.parts]
  simp [List.flatMap_map]

theorem splitOn_breakdown (counts : SuiteCounts) :
    counts.breakdown.toList.splitOn ',' =
      spell (counts.failures.toInt, "test cases failed") ::
        counts.parts.map (' ' :: spell ·) := by
  rw [toList_breakdown]
  apply List.splitOn_intercalate
  · intro chunk member
    rcases List.mem_cons.mp member with rfl | other
    · exact not_mem_spell (by decide) _
    · obtain ⟨⟨n, what⟩, found, rfl⟩ := List.mem_map.mp other
      apply List.not_mem_cons_of_ne_of_not_mem (by decide)
      rcases mem_parts found with rfl | rfl | rfl
      · exact not_mem_spell (by decide) n
      · exact not_mem_spell (by decide) n
      · exact not_mem_spell (by decide) n
  · exact List.cons_ne_nil _ _

/-- A breakdown says what its counts are. -/
theorem readBreakdown?_breakdown (counts : SuiteCounts) :
    readBreakdown? counts.breakdown =
      some ((counts.failures.toInt, "test cases failed") :: counts.parts) := by
  have each : (readPart? ∘ fun part => ' ' :: spell part) = fun part => pure part :=
    funext fun part => (readPart?_spell part).2
  rw [readBreakdown?, splitOn_breakdown, List.mapM_cons, (readPart?_spell _).1, List.mapM_map,
    each, List.mapM_pure, List.map_id']
  rfl

/-! Comparing and adding up. -/

/-- How many test cases are said to be of a kind; what is left out counts as zero. -/
def amount (what : String) (parts : List (Int × String)) : Int :=
  ((parts.filter (·.2 = what)).map (·.1)).sum

theorem amount_append (what : String) (parts others : List (Int × String)) :
    amount what (parts ++ others) = amount what parts + amount what others := by
  simp [amount]

theorem amount_said (n : Int) (kind what : String) :
    amount what (said n kind) = if kind = what then max 0 n else 0 := by
  unfold said
  split
  · by_cases same : kind = what
    · simp [amount, same]
      omega
    · simp [amount, same]
  · split
    · simp only [amount, List.filter_nil, List.map_nil, List.sum_nil]
      omega
    · rfl

theorem said_eq {n m : Int} (same : max 0 n = max 0 m) (what : String) :
    said n what = said m what := by
  unfold said
  by_cases counts : 0 < n
  · have equal : n = m := by omega
    rw [equal]
  · rw [if_neg counts, if_neg (by omega)]

theorem parts_eq_iff {a b : SuiteCounts} :
    a.parts = b.parts ↔
      max 0 a.passed.toInt = max 0 b.passed.toInt ∧ max 0 a.errors.toInt = max 0 b.errors.toInt ∧
        max 0 a.skipped.toInt = max 0 b.skipped.toInt := by
  have found (counts : SuiteCounts) :
      amount "passed" counts.parts = max 0 counts.passed.toInt ∧
        amount "errors" counts.parts = max 0 counts.errors.toInt ∧
        amount "skipped" counts.parts = max 0 counts.skipped.toInt := by
    simp [SuiteCounts.parts, amount_append, amount_said]
  constructor
  · intro same
    obtain ⟨passed, errors, skipped⟩ := found a
    rw [same] at passed errors skipped
    obtain ⟨passed', errors', skipped'⟩ := found b
    exact ⟨passed.symm.trans passed', errors.symm.trans errors', skipped.symm.trans skipped'⟩
  · rintro ⟨passed, errors, skipped⟩
    rw [SuiteCounts.parts, SuiteCounts.parts, said_eq passed, said_eq errors, said_eq skipped]

theorem breakdown_eq_iff {a b : SuiteCounts} :
    a.breakdown = b.breakdown ↔ a.failures = b.failures ∧
      max 0 a.passed.toInt = max 0 b.passed.toInt ∧ max 0 a.errors.toInt = max 0 b.errors.toInt ∧
        max 0 a.skipped.toInt = max 0 b.skipped.toInt := by
  rw [← parts_eq_iff]
  constructor
  · intro same
    have read := congrArg readBreakdown? same
    rw [readBreakdown?_breakdown, readBreakdown?_breakdown] at read
    obtain ⟨head, parts⟩ := List.cons.inj (Option.some.inj read)
    exact ⟨Int64.toInt_inj.mp (congrArg Prod.fst head), parts⟩
  · rintro ⟨failures, parts⟩
    rw [← String.toList_inj, toList_breakdown, toList_breakdown, failures, parts]

theorem sum_said (n : Int) (what : String) : ((said n what).map (·.1)).sum = max 0 n := by
  unfold said
  split
  · rw [List.map_singleton, List.sum_singleton]
    omega
  · rw [List.map_nil, List.sum_nil]
    omega

theorem sum_parts (counts : SuiteCounts) :
    (counts.parts.map (·.1)).sum =
      max 0 counts.passed.toInt + max 0 counts.errors.toInt + max 0 counts.skipped.toInt := by
  rw [SuiteCounts.parts, List.map_append, List.map_append, List.sum_append, List.sum_append,
    sum_said, sum_said, sum_said]

/-- Counters are subtracted like integers, and the result is cut to 64 bits. -/
theorem SuiteCounts.passed_eq (counts : SuiteCounts) :
    counts.passed = Int64.ofInt (counts.total.toInt - counts.errors.toInt - counts.failures.toInt -
      counts.skipped.toInt) := by
  rw [passed, Int64.ofInt_sub, Int64.ofInt_sub, Int64.ofInt_sub, Int64.ofInt_toInt,
    Int64.ofInt_toInt, Int64.ofInt_toInt, Int64.ofInt_toInt]

theorem SuiteCounts.toInt_passed {counts : SuiteCounts} (errors : 0 ≤ counts.errors.toInt)
    (failures : 0 ≤ counts.failures.toInt) (skipped : 0 ≤ counts.skipped.toInt)
    (within : counts.errors.toInt + counts.failures.toInt + counts.skipped.toInt ≤
      counts.total.toInt) :
    counts.passed.toInt = counts.total.toInt - counts.errors.toInt - counts.failures.toInt -
      counts.skipped.toInt := by
  have bound := counts.total.toInt_lt
  rw [passed_eq]
  apply Int64.toInt_ofInt_of_le
  · omega
  · omega

/-! Sums that are exact. -/

theorem tally_between (counter : SuiteOverview → Option Int32) (suites : List SuiteOverview) :
    -(2 ^ 31 * suites.length : Int) ≤ tally counter suites ∧
      tally counter suites ≤ (2 ^ 31 - 1) * suites.length := by
  induction suites with
  | nil => simp [tally]
  | cons overview suites ih =>
    have low := ((counter overview).getD 0).le_toInt
    have high := ((counter overview).getD 0).toInt_lt
    obtain ⟨least, most⟩ := ih
    rw [tally, List.map_cons, List.sum_cons, ← tally]
    rw [List.length_cons]
    push_cast
    constructor <;> omega

theorem toInt_ofInt_tally {suites : List SuiteOverview} (few : suites.length ≤ 2 ^ 30)
    (counter : SuiteOverview → Option Int32) :
    (Int64.ofInt (tally counter suites)).toInt = tally counter suites := by
  obtain ⟨least, most⟩ := tally_between counter suites
  apply Int64.toInt_ofInt_of_le
  · omega
  · omega

def Step.counts (step : Step) : SuiteCounts := suiteCounts step.execution

/-- The counts of a step are the sums over its suites, and nothing was cut off. -/
structure Step.Exact (step : Step) : Prop where
  total : step.counts.total.toInt = tally (·.total) step.suites
  errors : step.counts.errors.toInt = tally (·.errors) step.suites
  failures : step.counts.failures.toInt = tally (·.failures) step.suites
  skipped : step.counts.skipped.toInt = tally (·.skipped) step.suites
  passed : step.counts.passed.toInt = tally (·.total) step.suites - tally (·.errors) step.suites -
    tally (·.failures) step.suites - tally (·.skipped) step.suites

/-- It takes more than a billion suites to overflow a sum, or the difference of the sums. -/
theorem Step.exact {step : Step} (few : step.suites.length ≤ 2 ^ 30) : step.Exact := by
  have fits := toInt_ofInt_tally few
  have counts : step.counts = _ := suiteCounts_eq step
  constructor <;> rw [counts]
  · exact fits _
  · exact fits _
  · exact fits _
  · exact fits _
  rw [SuiteCounts.passed_eq, fits, fits, fits, fits]
  obtain ⟨_, _⟩ := tally_between (·.total) step.suites
  obtain ⟨_, _⟩ := tally_between (·.errors) step.suites
  obtain ⟨_, _⟩ := tally_between (·.failures) step.suites
  obtain ⟨_, _⟩ := tally_between (·.skipped) step.suites
  apply Int64.toInt_ofInt_of_le
  · omega
  · omega

/-! Failures. -/

def Step.Failed (step : Step) : Prop :=
  ∃ outcome, step.outcome = some outcome ∧ outcome.word = .failure

/-- A failure that no flag explains, and whose suites count something. -/
structure Step.BrokenDown (step : Step) : Prop where
  unexplained : ∃ outcome, step.outcome = some outcome ∧ outcome.word = .failure ∧
    outcome.flags = noFlag
  executed : step.execution.isSome
  counted : step.counts.total ≠ 0

theorem classify_of_failure {step : Step} {outcome : Outcome} (found : step.outcome = some outcome)
    (failed : outcome.word = .failure) :
    step.classify = some (.failed,
      (reasonOf .failure outcome.flags).getD (failureBreakdown step.execution)) := by
  have label : outcome.verdict.label = .failed := by
    rw [outcome.verdict_eq, failed]
    rfl
  rw [Step.classify, found, Option.map_some, label, Outcome.details_of_failure failed]

theorem classify_of_brokenDown {step : Step} (brokenDown : step.BrokenDown) :
    step.classify = some (.failed, step.counts.breakdown) := by
  obtain ⟨outcome, found, failed, flags⟩ := brokenDown.unexplained
  obtain ⟨execution, executed⟩ := Option.isSome_iff_exists.mp brokenDown.executed
  have counted := brokenDown.counted
  rw [Step.counts, executed] at counted
  rw [classify_of_failure found failed, reasonOf_failure_eq_none.mpr flags, Option.getD_none,
    Step.counts, executed, failureBreakdown, if_neg (by simp), if_neg counted,
    SuiteCounts.breakdown]

theorem readBreakdown?_reason {flags : Flags} {reason : String}
    (given : reasonOf .failure flags = some reason) : readBreakdown? reason = none := by
  have known : reason = "Application crashed" ∨ reason = "Test timed out" ∨
      reason = "App failed to install" := by
    obtain ⟨crashed, timedOut, notInstalled⟩ := flags
    simp only [reasonOf, FailureDetail.reason?] at given
    cases crashed <;> cases timedOut <;> cases notInstalled <;> simp_all
  rcases known with rfl | rfl | rfl <;> decide

theorem unread_of_failed {step : Step} (failed : step.Failed) (other : ¬step.BrokenDown) :
    ∃ text, step.classify = some (.failed, text) ∧ readBreakdown? text = none := by
  obtain ⟨outcome, found, failed⟩ := failed
  refine ⟨_, classify_of_failure found failed, ?_⟩
  cases given : reasonOf .failure outcome.flags with
  | some reason => exact readBreakdown?_reason given
  | none =>
    cases executed : step.execution with
    | none => decide
    | some execution =>
      have empty : (suiteCounts (some execution)).total = 0 := by
        by_contra counted
        refine other ⟨⟨outcome, found, failed, reasonOf_failure_eq_none.mp given⟩, ?_, ?_⟩
        · rw [executed]
          rfl
        · rwa [Step.counts, executed]
      rw [Option.getD_none, failureBreakdown, if_neg (by simp), if_pos empty]
      decide

/-- The text of a failure that is told by its counts says how many test cases failed, and how many
passed, had errors and were skipped where there are any. So two such texts are the same exactly if
they say the same numbers; no other failure is told by such a text; and if the failures, errors and
skipped ones are a part of the total, the numbers said add up to it. The counts are sums in 64 bits,
which nothing short of a billion suites can overflow. -/
theorem breakdown_is_faithful {a : Step} (brokenDown : a.BrokenDown) :
    ∃ text, a.classify = some (.failed, text) ∧
      readBreakdown? text =
        some ((a.counts.failures.toInt, "test cases failed") :: a.counts.parts) ∧
      (∀ b : Step, b.BrokenDown → ∃ other, b.classify = some (.failed, other) ∧
        (text = other ↔ a.counts.failures = b.counts.failures ∧
          max 0 a.counts.passed.toInt = max 0 b.counts.passed.toInt ∧
          max 0 a.counts.errors.toInt = max 0 b.counts.errors.toInt ∧
          max 0 a.counts.skipped.toInt = max 0 b.counts.skipped.toInt)) ∧
      (∀ b : Step, b.Failed → ¬b.BrokenDown →
        ∃ other, b.classify = some (.failed, other) ∧ text ≠ other) ∧
      (0 ≤ a.counts.errors.toInt → 0 ≤ a.counts.failures.toInt → 0 ≤ a.counts.skipped.toInt →
        a.counts.errors.toInt + a.counts.failures.toInt + a.counts.skipped.toInt ≤
          a.counts.total.toInt →
        a.counts.failures.toInt + (a.counts.parts.map (·.1)).sum = a.counts.total.toInt) ∧
      (a.suites.length < 2 ^ 30 → a.Exact) := by
  have read := readBreakdown?_breakdown a.counts
  refine ⟨a.counts.breakdown, classify_of_brokenDown brokenDown, read, ?_, ?_, ?_,
    fun few => Step.exact (Nat.le_of_lt few)⟩
  · intro b brokenDown
    exact ⟨_, classify_of_brokenDown brokenDown, breakdown_eq_iff⟩
  · intro b failed otherwise
    obtain ⟨other, told, unread⟩ := unread_of_failed failed otherwise
    refine ⟨other, told, ?_⟩
    rintro rfl
    rw [read] at unread
    exact Option.some_ne_none _ unread
  · intro errors failures skipped within
    have rest := SuiteCounts.toInt_passed errors failures skipped within
    rw [sum_parts]
    omega

/-- Ten test cases in two suites, of which two failed, one had an error and one was skipped. -/
def tenCases : Step where
  outcome := some { summary := some .failure }
  execution := some ⟨[{ total := some 7, errors := some 1, failures := some 2 },
    { total := some 3, skipped := some 1 }]⟩

def crashedCases : Step where
  outcome := some { summary := some .failure, failure := some ⟨true, false, false⟩ }
  execution := tenCases.execution

theorem breakdown_of_ten_cases :
    tenCases.BrokenDown ∧
      tenCases.classify = some (.failed, "2 test cases failed, 6 passed, 1 errors, 1 skipped") ∧
      tenCases.counts.failures.toInt + (tenCases.counts.parts.map (·.1)).sum = 10 ∧
      ∃ other, crashedCases.classify = some (.failed, other) ∧
        "2 test cases failed, 6 passed, 1 errors, 1 skipped" ≠ other := by
  have brokenDown : tenCases.BrokenDown :=
    ⟨⟨_, rfl, rfl, rfl⟩, rfl, by decide⟩
  have text : tenCases.classify =
      some (.failed, "2 test cases failed, 6 passed, 1 errors, 1 skipped") := by decide +kernel
  obtain ⟨_, told, -, -, apart, adds, -⟩ := breakdown_is_faithful brokenDown
  obtain rfl : _ = _ := congrArg Prod.snd (Option.some.inj (text.symm.trans told))
  refine ⟨brokenDown, text, adds (by decide) (by decide) (by decide) (by decide), apart _ ?_ ?_⟩
  · exact ⟨_, rfl, rfl⟩
  · rintro ⟨⟨outcome, found, -, flags⟩, -, -⟩
    cases found
    exact absurd flags (by decide)

end DeviceMatrix

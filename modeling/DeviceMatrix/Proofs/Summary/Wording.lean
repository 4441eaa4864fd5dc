import DeviceMatrix.Proofs.Summary.Canonical
import DeviceMatrix.Proofs.Text.Decimal
import Mathlib.Tactic.SplitIfs

/-! The wording of details. Whatever a step reports, its details are made of words of this library
and of decimal numbers, and so of the printable characters of ASCII. -/
namespace DeviceMatrix

/-- The printable characters of ASCII, the blank among them. -/
def Printable (c : Char) : Prop := 0x20 ≤ c.toNat ∧ c.toNat ≤ 0x7e

instance : DecidablePred Printable := fun _ => inferInstanceAs (Decidable (_ ∧ _))

def Legible (text : String) : Prop := ∀ c ∈ text.toList, Printable c

instance (text : String) : Decidable (Legible text) := List.decidableBAll Printable text.toList

theorem legible_append {s t : String} : Legible (s ++ t) ↔ Legible s ∧ Legible t := by
  simp [Legible, or_imp, forall_and]

theorem printable_of_isDigit {c : Char} (digit : c.isDigit) : Printable c := by
  have bounds : 48 ≤ c.toNat ∧ c.toNat ≤ 57 := by
    simpa [Char.isDigit, UInt32.le_iff_toNat_le] using digit
  simp only [Printable]
  omega

theorem legible_ofNat (n : Nat) : Legible (Decimal.ofNat n) := by
  intro c member
  rw [Decimal.toList_ofNat] at member
  exact printable_of_isDigit (Decimal.isDigit_of_mem_digits member)

theorem legible_ofInt (n : Int) : Legible (Decimal.ofInt n) := by
  intro c member
  rw [Decimal.ofInt, String.toList_ofList] at member
  cases n with
  | ofNat n => exact printable_of_isDigit (Decimal.isDigit_of_mem_digits member)
  | negSucc n =>
    rcases List.mem_cons.1 member with rfl | digit
    · decide
    · exact printable_of_isDigit (Decimal.isDigit_of_mem_digits digit)

theorem legible_counted (n : Int64) {what : String} (legible : Legible what) :
    Legible (counted n what) :=
  legible_append.2 ⟨legible_append.2 ⟨legible_ofInt _, by decide⟩, legible⟩

theorem legible_part (n : Int64) {what : String} (legible : Legible what) :
    Legible (part n what) := by
  unfold part
  split
  · exact legible_append.2 ⟨by decide, legible_counted n legible⟩
  · decide

theorem legible_failureBreakdown (execution : Option TestExecution) :
    Legible (failureBreakdown execution) := by
  unfold failureBreakdown
  split
  · decide
  · dsimp only
    split
    · decide
    · simp only [legible_append]
      exact ⟨⟨⟨legible_counted _ (by decide), legible_part _ (by decide)⟩,
        legible_part _ (by decide)⟩, legible_part _ (by decide)⟩

theorem legible_reason {verdict : Verdict} {reason : String}
    (given : verdict.reason? = some reason) : Legible reason := by
  cases verdict with
  | success => contradiction
  | unrecognized => contradiction
  | failure detail =>
    obtain ⟨detail, -, given⟩ := Option.bind_eq_some_iff.1 given
    unfold FailureDetail.reason? at given
    split_ifs at given <;> cases given <;> decide
  | inconclusive detail =>
    obtain ⟨detail, -, given⟩ := Option.bind_eq_some_iff.1 given
    unfold InconclusiveDetail.reason? at given
    split_ifs at given <;> cases given <;> decide
  | skipped detail =>
    obtain ⟨detail, -, given⟩ := Option.bind_eq_some_iff.1 given
    unfold SkippedDetail.reason? at given
    split_ifs at given <;> cases given <;> decide

theorem legible_details (verdict : Verdict) (execution : Option TestExecution) :
    Legible (verdict.details execution) := by
  have given (other : String) (legible : Legible other) :
      Legible (verdict.reason?.getD other) := by
    cases shown : verdict.reason? with
    | none => exact legible
    | some reason => exact legible_reason shown
  cases verdict with
  | success =>
    simp only [Verdict.details]
    split
    · exact legible_counted _ (by decide)
    · decide
  | failure detail => exact given _ (legible_failureBreakdown execution)
  | inconclusive detail => exact given _ (by decide)
  | skipped detail => exact given _ (by decide)
  | unrecognized =>
    simp only [Verdict.details]
    decide

theorem legible_of_mem_summarize {steps : List Step} {row : TestOutcome}
    (member : row ∈ (summarize steps).value) : Legible row.details := by
  obtain ⟨step, -, made⟩ := mem_summarize_iff.1 member
  obtain ⟨classified, verdict, rfl⟩ := Option.map_eq_some_iff.1 made
  obtain ⟨outcome, -, rfl⟩ := Option.map_eq_some_iff.1 verdict
  exact legible_details _ _

end DeviceMatrix

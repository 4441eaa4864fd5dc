import DeviceMatrix.Proofs.Source.Paging

/-! A recording asked with any token. The tokens that it understands are the texts that spell an
offset into its steps; it answers them with the steps from there on, and a page that is not the
last names the offset behind it, which lies further on and is understood again. -/
namespace DeviceMatrix.Recording

open Decimal (Spells)

/-- The page holds the recorded steps from one offset up to another, and goes on from there if
steps are left. -/
structure Spans (recording : Recording) (start stop : Nat) (page : StepPage) : Prop where
  ordered : start ≤ stop
  inside : stop ≤ recording.steps.length
  count : page.steps.length = stop - start
  steps : ∀ i < stop - start, page.steps[i]? = recording.steps[start + i]?
  next : page.nextToken =
    if stop < recording.steps.length then some (Decimal.ofNat stop) else none

section

variable (recording : Recording) (fits : recording.steps.length ≤ Decimal.maxWord)

include fits

theorem offset?_eq_some_iff {token : String} {start : Nat} :
    recording.offset? (some token) = some start ↔
      Spells token.toList start ∧ start ≤ recording.steps.length := by
  rw [offset?, Option.filter_eq_some_iff, Decimal.word?_eq_some_iff, decide_eq_true_iff]
  constructor
  · rintro ⟨⟨spelled, -⟩, reached⟩
    exact ⟨spelled, reached⟩
  · rintro ⟨spelled, reached⟩
    exact ⟨⟨spelled, Nat.le_trans reached fits⟩, reached⟩

theorem list_of_spells {token : String} {start : Nat} (spelled : Spells token.toList start)
    (reached : start ≤ recording.steps.length) (pageSize : Nat) :
    recording.list (some token) pageSize = .ok (recording.page start pageSize) := by
  rw [list, (recording.offset?_eq_some_iff fits).2 ⟨spelled, reached⟩]

theorem list_of_not_spells {token : String}
    (other : ¬∃ start, Spells token.toList start ∧ start ≤ recording.steps.length)
    (pageSize : Nat) : recording.list (some token) pageSize = .error (.invalidPageToken token) := by
  have lost : recording.offset? (some token) = none := by
    rw [Option.eq_none_iff_forall_ne_some]
    exact fun start found => other ⟨start, (recording.offset?_eq_some_iff fits).1 found⟩
  rw [list, lost, Option.getD_some]

theorem page_spans {start : Nat} (reached : start ≤ recording.steps.length) (pageSize : Nat) :
    recording.Spans start (min (start + max pageSize 1) recording.steps.length)
      (recording.page start pageSize) := by
  have stop : recording.stop start pageSize =
      min (start + max pageSize 1) recording.steps.length := recording.stop_eq pageSize fits start
  rw [page, stop]
  have ordered : start ≤ min (start + max pageSize 1) recording.steps.length := by omega
  refine ⟨ordered, Nat.min_le_right _ _, ?_, ?_, rfl⟩
  · simp only [List.extract_eq_take_drop, List.length_take, List.length_drop]
    omega
  · intro i before
    simp only [List.extract_eq_take_drop]
    rw [List.getElem?_take_of_lt before, List.getElem?_drop]

end

/-- Whatever token a recording is asked with, it answers with a page exactly if the token spells an
offset into its steps, be it the one behind them, and refuses it otherwise. The page holds the
steps from that offset on, as many as asked for and at least one, up to the end; no sum of 64 bits
falls short of that, however large a page is asked for. The token of the page, if it has one,
spells an offset further on, and the same source answers it, with pages of any size. -/
theorem answer_to_any_token {recording : Recording} (bound : recording.steps.length < 2 ^ 63)
    (name : String) (handle : ExecutionHandle) (token : String) (pageSize : Nat) :
    let answer (token : String) (pageSize : Nat) : Except ServiceError StepPage :=
      ((recording.source (m := Id) name).list handle (some token) pageSize).run.value
    let stop (start : Nat) := min (start + max pageSize 1) recording.steps.length
    ((∃ page, answer token pageSize = .ok page) ↔
      ∃ start, Spells token.toList start ∧ start ≤ recording.steps.length) ∧
    ((¬∃ start, Spells token.toList start ∧ start ≤ recording.steps.length) →
      answer token pageSize = .error (.invalidPageToken token)) ∧
    ∀ start, Spells token.toList start → start ≤ recording.steps.length →
      recording.stop start pageSize = stop start ∧
      ∃ page, answer token pageSize = .ok page ∧ recording.Spans start (stop start) page ∧
        ∀ next, page.nextToken = some next →
          Spells next.toList (stop start) ∧ start < stop start ∧
          ∀ size, ∃ after, answer next size = .ok after := by
  intro answer stop
  have fits : recording.steps.length ≤ Decimal.maxWord := by
    simp only [Decimal.maxWord]
    omega
  have refused := @list_of_not_spells recording fits token
  refine ⟨⟨?_, ?_⟩, fun other => refused other pageSize, ?_⟩
  · rintro ⟨page, answered⟩
    by_contra other
    have failed := (refused other pageSize).symm.trans answered
    contradiction
  · rintro ⟨start, spelled, reached⟩
    exact ⟨_, recording.list_of_spells fits spelled reached pageSize⟩
  · intro start spelled reached
    have spans := recording.page_spans fits reached pageSize
    refine ⟨recording.stop_eq pageSize fits start, _,
      recording.list_of_spells fits spelled reached pageSize, spans, fun next named => ?_⟩
    have going : stop start < recording.steps.length ∧ next = Decimal.ofNat (stop start) := by
      rw [spans.next] at named
      split at named
      next left => exact ⟨left, (Option.some.inj named).symm⟩
      next => contradiction
    obtain ⟨left, rfl⟩ := going
    have spelled : Spells (Decimal.ofNat (stop start)).toList (stop start) := by
      rw [Decimal.toList_ofNat]
      exact Decimal.spells_digits _
    have further : start < stop start := by
      simp only [stop] at left ⊢
      omega
    exact ⟨spelled, further, fun size =>
      ⟨_, recording.list_of_spells fits spelled (Nat.le_of_lt left) size⟩⟩

/-- A token with a sign and a zero in front, and a page size that no sum of 64 bits can take. -/
theorem answer_to_padded_token :
    fiveSteps.steps.length < 2 ^ 63 ∧
    let answer (token : String) (pageSize : Nat) : Except ServiceError StepPage :=
      ((fiveSteps.source (m := Id) "five").list ⟨"p", "h", "e"⟩ (some token) pageSize).run.value
    Spells "+02".toList 2 ∧
    (∃ page, answer "+02" 2 = .ok page ∧ fiveSteps.Spans 2 4 page ∧
      ∀ next, page.nextToken = some next → Spells next.toList 4) ∧
    ∃ page, answer "+02" Decimal.maxWord = .ok page ∧ fiveSteps.Spans 2 5 page := by
  have bound : fiveSteps.steps.length < 2 ^ 63 := by decide
  have spelled : Spells "+02".toList 2 := ⟨['0', '2'], .inr rfl, nofun, by simp, by decide⟩
  have asked := answer_to_any_token bound "five" ⟨"p", "h", "e"⟩ "+02"
  obtain ⟨-, page, answered, spans, going⟩ := (asked 2).2.2 2 spelled (by decide)
  obtain ⟨-, rest, answered', spans', -⟩ := (asked Decimal.maxWord).2.2 2 spelled (by decide)
  exact ⟨bound, spelled, ⟨page, answered, spans, fun next named => (going next named).1⟩,
    rest, answered', spans'⟩

end DeviceMatrix.Recording

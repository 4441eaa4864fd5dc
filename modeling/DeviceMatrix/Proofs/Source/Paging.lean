import DeviceMatrix.Proofs.Summary.Listing
import DeviceMatrix.Proofs.Text.Decimal
import DeviceMatrix.Source.Recorded
import Mathlib.Algebra.Order.Floor.Div

/-! A recording listed page by page. Pages begin at multiples of the page size, the token of a
page is the decimal text of such a multiple, and the pages together are the recorded steps. -/
namespace DeviceMatrix.Recording

/-- How many steps a page holds, the last one apart. -/
def stride (pageSize : Nat) : Nat := max pageSize 1

/-- How many pages a recording has. One without steps has a single, empty page. -/
def pageCount (recording : Recording) (pageSize : Nat) : Nat :=
  max 1 (recording.steps.length ⌈/⌉ stride pageSize)

/-- The token with which a page is asked for, counting from zero. -/
def tokenOf (pageSize : Nat) : Nat → Option String
  | 0 => none
  | k + 1 => some (Decimal.ofNat ((k + 1) * stride pageSize))

variable (recording : Recording) (pageSize : Nat)

theorem stride_pos : 0 < stride pageSize := Nat.le_max_right pageSize 1

theorem succ_lt_pageCount {k : Nat} :
    k + 1 < recording.pageCount pageSize ↔
      (k + 1) * stride pageSize < recording.steps.length := by
  have below := ceilDiv_le_iff_le_mul (b := recording.steps.length) (c := k + 1)
    (stride_pos pageSize)
  rw [Nat.mul_comm] at below
  simp only [pageCount]
  omega

theorem offset_le {k : Nat} (inside : k < recording.pageCount pageSize) :
    k * stride pageSize ≤ recording.steps.length := by
  cases k with
  | zero => simp
  | succ k => exact Nat.le_of_lt ((recording.succ_lt_pageCount pageSize).1 inside)

theorem pageCount_le : recording.pageCount pageSize ≤ recording.steps.length + 1 := by
  have below := (ceilDiv_le_iff_le_mul (b := recording.steps.length)
    (c := recording.steps.length) (stride_pos pageSize)).2
    (Nat.le_mul_of_pos_left _ (stride_pos pageSize))
  simp only [pageCount]
  omega

theorem list_tokenOf {k : Nat} (inside : k < recording.pageCount pageSize)
    (fits : recording.steps.length ≤ Decimal.maxWord) :
    recording.list (tokenOf pageSize k) pageSize =
      .ok (recording.page (k * stride pageSize) pageSize) := by
  have reached := recording.offset_le pageSize inside
  cases k with
  | zero => simp [list, offset?, tokenOf]
  | succ k =>
    have read := Decimal.word?_digits (Nat.le_trans reached fits)
    simp [list, offset?, tokenOf, read, Option.filter, reached]

/-- No sum is too large for a word before it is past the last step. -/
theorem stop_eq (fits : recording.steps.length ≤ Decimal.maxWord) (start : Nat) :
    recording.stop start pageSize = min (start + stride pageSize) recording.steps.length := by
  simp only [stop, stride]
  omega

section

variable (fits : recording.steps.length ≤ Decimal.maxWord) (k : Nat)

include fits

theorem page_next? :
    (recording.page (k * stride pageSize) pageSize).next? =
      if k + 1 < recording.pageCount pageSize then tokenOf pageSize (k + 1) else none := by
  have stop := recording.stop_eq pageSize fits (k * stride pageSize)
  rw [← Nat.succ_mul] at stop
  have more : recording.stop (k * stride pageSize) pageSize < recording.steps.length ↔
      k + 1 < recording.pageCount pageSize := by
    rw [stop, succ_lt_pageCount, min_lt_iff, or_iff_left (Nat.lt_irrefl _)]
  simp only [StepPage.next?, page, more]
  split
  next going =>
    have inside := (recording.succ_lt_pageCount pageSize).1 going
    rw [stop, Nat.min_eq_left (Nat.le_of_lt inside)]
    simp [tokenOf, Decimal.ofNat_ne_empty]
  next => rfl

theorem page_steps_append :
    (recording.page (k * stride pageSize) pageSize).steps ++
        recording.steps.drop ((k + 1) * stride pageSize) =
      recording.steps.drop (k * stride pageSize) := by
  have stop := recording.stop_eq pageSize fits (k * stride pageSize)
  have taken : (recording.page (k * stride pageSize) pageSize).steps =
      (recording.steps.drop (k * stride pageSize)).take (stride pageSize) := by
    rw [page, List.extract_eq_take_drop, stop]
    rcases Nat.le_total (k * stride pageSize + stride pageSize) recording.steps.length with h | h
    · rw [Nat.min_eq_left h, Nat.add_sub_cancel_left]
    · rw [Nat.min_eq_right h, List.take_of_length_le (by simp),
        List.take_of_length_le (by rw [List.length_drop]; omega)]
  rw [taken, Nat.succ_mul, ← List.drop_drop]
  exact List.take_append_drop _ _

end

variable {m : Type → Type} [Monad m] (name : String) (handle : ExecutionHandle)

def fetcher : Fetcher (StateT (List Request) m) :=
  ⟨(recording.source name).noted, handle, pageSize⟩

/-- The request for a page, counting from zero. -/
def requestOf (k : Nat) : Request := .list handle (tokenOf pageSize k) pageSize

def lineOf (k : Nat) : Line :=
  (fetcher (m := m) recording pageSize name handle).pageLine
    (recording.page (k * stride pageSize) pageSize)

theorem run_list [LawfulMonad m] {α : Type} {k : Nat}
    (inside : k < recording.pageCount pageSize)
    (fits : recording.steps.length ≤ Decimal.maxWord)
    (f : Reply StepPage → StateT (List Request) m α) (requests : List Request) :
    ((recording.source name).noted.list handle (tokenOf pageSize k) pageSize >>= f).run requests =
      (f ⟨.ok (recording.page (k * stride pageSize) pageSize), []⟩).run
        (requests ++ [requestOf pageSize handle k]) := by
  rw [← recording.list_tokenOf pageSize inside fits]
  simp [StepSource.noted, source, requestOf]

/-- The requests that are still to come are those for the pages from `k` on. The induction is
on the number of pages after that one. -/
theorem run_listFrom [LawfulMonad m] (fits : recording.steps.length ≤ Decimal.maxWord)
    {k behind limit : Nat} (count : k + behind + 1 = recording.pageCount pageSize)
    (enough : behind < limit) (requests : List Request) :
    ((fetcher (m := m) recording pageSize name handle).listFrom limit
        (tokenOf pageSize k)).run requests =
      pure (⟨.ok (recording.steps.drop (k * stride pageSize)),
          (List.range' k (behind + 1)).map (lineOf (m := m) recording pageSize name handle)⟩,
        requests ++ (List.range' k (behind + 1)).map (requestOf pageSize handle)) := by
  induction behind generalizing k limit requests with
  | zero =>
    obtain ⟨limit, rfl⟩ := Nat.exists_eq_add_one_of_ne_zero (Nat.ne_zero_of_lt enough)
    have last : (recording.page (k * stride pageSize) pageSize).next? = none := by
      rw [page_next? recording pageSize fits, if_neg (by omega)]
    have whole := recording.page_steps_append pageSize fits k
    rw [List.drop_eq_nil_of_le
      (Nat.le_of_not_lt (mt (recording.succ_lt_pageCount pageSize).2 (by omega))),
      List.append_nil] at whole
    rw [Fetcher.listFrom_succ]
    refine (run_list recording pageSize name handle (by omega) fits _ requests).trans ?_
    rw [Fetcher.proceed_last _ _ last, whole]
    rfl
  | succ behind ih =>
    obtain ⟨limit, rfl⟩ := Nat.exists_eq_add_one_of_ne_zero (Nat.ne_zero_of_lt enough)
    have going : (recording.page (k * stride pageSize) pageSize).next? =
        some (Decimal.ofNat ((k + 1) * stride pageSize)) := by
      rw [page_next? recording pageSize fits, if_pos (by omega), tokenOf]
    have rest := @ih (k + 1) limit (by omega) (by omega)
      (requests ++ [requestOf pageSize handle k])
    rw [Fetcher.listFrom_succ]
    refine (run_list recording pageSize name handle (by omega) fits _ requests).trans ?_
    rw [Fetcher.proceed_next _ _ going, StateT.run_bind, ← tokenOf, rest,
      ← recording.page_steps_append pageSize fits k, List.range'_succ (s := k)]
    simp [Logged.map, Logged.after, Except.map, lineOf]

theorem run_steps [LawfulMonad m] (bound : recording.steps.length < 2 ^ 63)
    (requests : List Request) :
    ((fetcher (m := m) recording pageSize name handle).steps).run requests =
      pure (⟨.ok recording.steps,
          (List.range (recording.pageCount pageSize)).map
            (lineOf (m := m) recording pageSize name handle)⟩,
        requests ++ (List.range (recording.pageCount pageSize)).map
          (requestOf pageSize handle)) := by
  have fits : recording.steps.length ≤ Decimal.maxWord := by
    simp only [Decimal.maxWord]
    omega
  have positive : 0 < recording.pageCount pageSize := by
    simp only [pageCount]
    omega
  have few := recording.pageCount_le pageSize
  obtain ⟨behind, count⟩ := Nat.exists_eq_add_one_of_ne_zero (Nat.ne_of_gt positive)
  have enough : behind < Fetcher.requestLimit := by
    simp only [Fetcher.requestLimit]
    omega
  have run := run_listFrom (m := m) recording pageSize name handle fits (k := 0)
    (by omega : 0 + behind + 1 = _) enough requests
  rw [List.range_eq_range', count]
  simpa [Fetcher.steps, tokenOf] using run

theorem run_summary [LawfulMonad m] (bound : recording.steps.length < 2 ^ 63)
    (requests : List Request) :
    ((fetcher (m := m) recording pageSize name handle).summary).run requests =
      pure (⟨.ok (summarize recording.steps).value,
          (List.range (recording.pageCount pageSize)).map
            (lineOf (m := m) recording pageSize name handle) ++ (summarize recording.steps).log⟩,
        requests ++ (List.range (recording.pageCount pageSize)).map
          (requestOf pageSize handle)) := by
  simp only [Fetcher.summary, StateT.run_bind,
    run_steps (m := m) recording pageSize name handle bound requests, pure_bind]
  rfl

theorem requestOf_eq (k : Nat) :
    requestOf pageSize handle k = .list handle
      (if k = 0 then none else some (Decimal.ofNat (k * max pageSize 1))) pageSize := by
  cases k <;> simp [requestOf, tokenOf, stride]

theorem warnings_lineOf (pages : List Nat) (log : List Line) :
    Logged.warnings ⟨(), pages.map (lineOf (m := m) recording pageSize name handle) ++ log⟩ =
      Logged.warnings ⟨(), log⟩ := by
  simp [Logged.warnings, List.filter_map, Function.comp_def, lineOf, Fetcher.pageLine]

/-- A recording is listed in full: no step is lost or repeated, and their order is kept. The
pages are asked for by offset, as many as the steps fill and at least one, also with page size
zero. So neither rows nor warnings of a summary depend on the page size. -/
theorem listing_of_recording (bound : recording.steps.length < 2 ^ 63) :
    let listing : Fetched (List Step) × List Request :=
      (fetcher (m := Id) recording pageSize name handle).steps.run []
    let summary (size : Nat) : Fetched (List TestOutcome) × List Request :=
      (fetcher (m := Id) recording size name handle).summary.run []
    listing.1.value = .ok recording.steps ∧
    listing.2 = (List.range (max 1 (recording.steps.length ⌈/⌉ max pageSize 1))).map
      (fun k => .list handle
        (if k = 0 then none else some (Decimal.ofNat (k * max pageSize 1))) pageSize) ∧
    (summary pageSize).1.value = .ok (summarize recording.steps).value ∧
    ∀ other, (summary pageSize).1.value = (summary other).1.value ∧
      (summary pageSize).1.warnings = (summary other).1.warnings := by
  have listed := run_steps (m := Id) recording pageSize name handle bound []
  have summarized (size : Nat) := run_summary (m := Id) recording size name handle bound []
  intro listing summary
  have whole : listing = _ := listed
  have rows (size : Nat) : summary size = _ := summarized size
  refine ⟨?_, ?_, ?_, ?_⟩
  · rw [whole]
    rfl
  · rw [whole]
    exact List.map_congr_left fun k _ => requestOf_eq pageSize handle k
  · rw [rows]
    rfl
  · intro other
    rw [rows, rows]
    exact ⟨rfl, (warnings_lineOf (m := Id) recording pageSize name handle _ _).trans
      (warnings_lineOf (m := Id) recording other name handle _ _).symm⟩

def fiveSteps : Recording where
  steps := [{ id := some "0" }, { id := some "1" }, { id := some "2" }, { id := some "3" },
    { id := some "4" }]

theorem listing_five_steps :
    fiveSteps.steps.length < 2 ^ 63 ∧
    let handle : ExecutionHandle := ⟨"p", "h", "e"⟩
    let listing := (fetcher (m := Id) fiveSteps 2 "five" handle).steps.run []
    listing.1.value = .ok fiveSteps.steps ∧
    listing.2 =
      [.list handle none 2, .list handle (some "2") 2, .list handle (some "4") 2] := by
  have bound : fiveSteps.steps.length < 2 ^ 63 := by decide
  have listed := listing_of_recording fiveSteps 2 "five" ⟨"p", "h", "e"⟩ bound
  have second : Decimal.ofNat 2 = "2" := by decide +kernel
  have third : Decimal.ofNat 4 = "4" := by decide +kernel
  refine ⟨bound, listed.1, listed.2.1.trans ?_⟩
  rw [← second, ← third]
  rfl

end DeviceMatrix.Recording

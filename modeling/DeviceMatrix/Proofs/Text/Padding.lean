import DeviceMatrix.Text.Control

/-! Texts with blanks behind them. Blanks end every control sequence, and what stands in front of
them shows as if nothing followed; so each of them adds a column to a text, and a text that is
filled up to a width has this width. -/
namespace DeviceMatrix

theorem Unicode.Ranges.not_contains {ranges : Ranges} {low high : Nat}
    (apart : ∀ range ∈ ranges, range.2 < low ∨ high < range.1) {c : Char}
    (inside : low ≤ c.toNat ∧ c.toNat ≤ high) : ranges.contains c = false := by
  simp only [Ranges.contains, List.any_eq_false, Bool.and_eq_true, decide_eq_true_eq]
  intro range member within
  have := apart range member
  omega

namespace Text

open Unicode

def blanks (n : Nat) : List Char := List.replicate n ' '

theorem blanks_succ (n : Nat) : blanks (n + 1) = ' ' :: blanks n := rfl

/-! Control sequences. -/

theorem Control.step_blank (state : Control.State) : Control.step state ' ' = none := by
  cases state <;> rfl

/-- A blank is no part of a sequence, so that one stops where it would at the end of the text. -/
theorem Control.rest?_append_blanks (n : Nat) (state : Control.State) (s : List Char) :
    Control.rest? state (s ++ blanks n) = (Control.rest? state s).map (· ++ blanks n) := by
  induction s generalizing state with
  | nil =>
    cases n with
    | zero => simp [blanks]
    | succ n =>
      simp only [List.nil_append, blanks_succ, rest?, step_blank]
      cases state.accepts <;> rfl
  | cons c s ih =>
    rw [List.cons_append, rest?, rest?]
    cases next : step state c with
    | none => cases state.accepts <;> rfl
    | some next =>
      simp only [ih, Option.map_or]
      cases state.accepts <;> rfl

theorem withoutControls_blanks (n : Nat) : withoutControls (blanks n) = blanks n := by
  induction n with
  | zero => rw [blanks, List.replicate_zero, withoutControls]
  | succ n ih =>
    have plain : Control.isIntroducer ' ' = false := by decide
    rw [blanks_succ, withoutControls, plain, ih]
    rfl

theorem withoutControls_append_blanks (s : List Char) (n : Nat) :
    withoutControls (s ++ blanks n) = withoutControls s ++ blanks n := by
  -- A sequence is found in front of the blanks exactly if it is found without them.
  fun_induction withoutControls s with
  | case1 => exact withoutControls_blanks n
  | case2 c s introduces rest found ih =>
    have further : Control.rest? .introduced (s ++ blanks n) = some (rest ++ blanks n) := by
      rw [Control.rest?_append_blanks, found, Option.map_some]
    rw [List.cons_append, withoutControls, if_pos introduces]
    split
    next other same =>
      rw [further] at same
      rw [← Option.some.inj same, ih]
    next none =>
      rw [further] at none
      contradiction
  | case3 c s introduces missing ih =>
    have further : Control.rest? .introduced (s ++ blanks n) = none := by
      rw [Control.rest?_append_blanks, missing, Option.map_none]
    rw [List.cons_append, withoutControls, if_pos introduces]
    split
    next other same =>
      rw [further] at same
      contradiction
    next none => rw [ih, List.cons_append]
  | case4 c s plain ih =>
    rw [List.cons_append, withoutControls, if_neg plain, ih, List.cons_append]

/-! Columns. -/

namespace Following

/-- The columns that a character further left may take back by merging with what is behind it. -/
def owed : Following → Int
  | khmerLetter | tifinaghJoined | joinedFlagLetter => 1
  | joinedFlagLetters paired => if paired then 0 else 1
  | _ => 0

theorem owed_eq_zero_or_one (following : Following) :
    following.owed = 0 ∨ following.owed = 1 := by
  cases following with
  | joinedFlagLetters paired => cases paired <;> decide
  | khmerLetter | tifinaghJoined | joinedFlagLetter => exact .inr rfl
  | _ => exact .inl rfl

theorem owed_nonneg (following : Following) : 0 ≤ following.owed := by
  have := following.owed_eq_zero_or_one
  omega

theorem owed_le_one (following : Following) : following.owed ≤ 1 := by
  have := following.owed_eq_zero_or_one
  omega

theorem owed_withJoiner (following : Following) : following.withJoiner.owed = following.owed := by
  cases following <;> rfl

end Following

theorem between_of_hasSubscript {c : Char} (letter : hasSubscript c) :
    0x1780 ≤ c.toNat ∧ c.toNat ≤ 0x17af := by
  simp only [hasSubscript, inRange, Bool.or_eq_true, Bool.and_eq_true, decide_eq_true_eq,
    beq_iff_eq] at letter
  rcases letter with ((low | rfl) | middle) | rfl
  · omega
  · decide
  · omega
  · decide

/-- Khmer letters with a form below the line take a column when they stand alone. -/
theorem columns_of_hasSubscript {c : Char} (letter : hasSubscript c) : 1 ≤ columns c := by
  have inside := between_of_hasSubscript letter
  have extending : extendingRanges.contains c = false :=
    Ranges.not_contains (by decide +kernel) inside
  have ignorable : ignorableRanges.contains c = false := Ranges.not_contains (by decide) inside
  have prepended : prependedRanges.contains c = false := Ranges.not_contains (by decide) inside
  simp only [columns, isExtending, extending, ignorable, prepended]
  split
  · exact Nat.le_refl 1
  · grind

theorem owed_ownContext_le (c : Char) : (ownContext c).following.owed ≤ columns c := by
  by_cases letter : hasSubscript c
  · exact Int.le_trans (Following.owed_le_one _) (Int.ofNat_le.2 (columns_of_hasSubscript letter))
  · have free : (ownContext c).following.owed = 0 := by
      rw [ownContext, if_neg letter]
      repeat
        refine iteInduction (motive := fun own : Context => own.following.owed = 0)
          (fun _ => rfl) fun _ => ?_
      rfl
    rw [free]
    exact Int.natCast_nonneg _

theorem merged?_covers {c : Char} {before after : Following} {added : Int}
    (merged : merged? c before = some (added, after)) : after.owed ≤ before.owed + added := by
  unfold merged? at merged
  split at merged
  all_goals grind [Following.owed, beforeJoined?]

/-- What is owed with a character in front is owed already or added by the character. -/
def Covered (context : Context) (step : Int × Context) : Prop :=
  step.2.following.owed ≤ context.following.owed + step.1

variable {context : Context}

theorem covered_alone (c : Char) : Covered context (alone c) := by
  have owed := context.following.owed_nonneg
  have own := owed_ownContext_le c
  simp only [Covered, alone]
  omega

theorem covered_free {added : Int} {after : Context} (nonneg : 0 ≤ added)
    (free : after.following.owed = 0 ∨ after.following.owed = context.following.owed) :
    Covered context (added, after) := by
  have owed := context.following.owed_nonneg
  simp only [Covered]
  omega

theorem covered_select {visible : Bool} {kept hidden : Context}
    (same : kept.following = context.following) (none : hidden.following = .plain) :
    Covered context (0, if visible then kept else hidden) := by
  refine covered_free (Int.le_refl 0) ?_
  split
  · exact .inr (congrArg Following.owed same)
  · exact .inl (congrArg Following.owed none)

theorem covered_addToOpen (c : Char) : Covered context (addToOpen c context) := by
  unfold addToOpen
  split
  · exact covered_alone c
  -- Selectors take no column, and joiners keep what is owed or end it.
  split
  · exact covered_select rfl rfl
  split
  · exact covered_select rfl rfl
  split
  · exact covered_select rfl rfl
  split
  · exact covered_free (by decide) (.inl rfl)
  split
  · exact covered_free (by decide) (.inl rfl)
  dsimp only
  split
  · exact covered_free (Int.le_refl 0) (.inr (Following.owed_withJoiner _))
  split
  · exact covered_free (Int.le_refl 0) (.inr rfl)
  split
  · exact covered_free (Int.le_refl 0) (.inl rfl)
  -- Only a merge takes columns back.
  split
  next merged => exact merged?_covers merged
  next => exact covered_alone c

theorem covered_addColumns (c : Char) : Covered context (addColumns c context) := by
  have dropped : context.dropPicture.following.owed ≤ context.following.owed := by
    have := context.following.owed_nonneg
    unfold Context.dropPicture
    repeat' split
    · exact Int.le_refl _
    · exact Int.le_refl _
    · exact this
  have weaken {step : Int × Context} (covered : Covered context.dropPicture step) :
      Covered context step := by
    simp only [Covered] at covered ⊢
    omega
  unfold addColumns
  split
  · refine covered_free ?_ (.inl rfl)
    split <;> decide
  dsimp only
  split
  · split
    · exact covered_free (Int.le_refl 0) (.inl rfl)
    · exact covered_alone c
  · exact weaken (covered_addToOpen c)

def measured (s : List Char) (behind : Int × Context) : Int × Context :=
  s.foldr (fun c (sum, context) =>
    let (added, context) := addColumns c context
    (sum + added, context)) behind

theorem measured_cons (c : Char) (s : List Char) (behind : Int × Context) :
    measured (c :: s) behind =
      ((measured s behind).1 + (addColumns c (measured s behind).2).1,
        (addColumns c (measured s behind).2).2) := rfl

/-- A text takes no more columns back than it has: the sum that is reached covers what is owed. -/
theorem owed_measured_le (s : List Char) :
    (measured s (0, {})).2.following.owed ≤ (measured s (0, {})).1 := by
  induction s with
  | nil => decide
  | cons c s ih =>
    have covered : Covered (measured s (0, {})).2 (addColumns c (measured s (0, {})).2) :=
      covered_addColumns c
    simp only [Covered] at covered
    rw [measured_cons]
    dsimp only
    omega

theorem measured_shift (s : List Char) (n sum : Int) (context : Context) :
    measured s (sum + n, context) =
      ((measured s (sum, context)).1 + n, (measured s (sum, context)).2) := by
  induction s with
  | nil => rfl
  | cons c s ih =>
    rw [measured_cons, measured_cons, ih]
    simp only [Prod.mk.injEq, and_true]
    omega

theorem measured_blanks (n : Nat) : measured (blanks n) (0, {}) = ((n : Int), {}) := by
  induction n with
  | zero => rfl
  | succ n ih =>
    have blank : addColumns ' ' {} = (1, {}) := by decide
    rw [blanks_succ, measured_cons, ih, blank]
    rfl

theorem plainWidth_append_blanks (s : List Char) (n : Nat) :
    plainWidth (s ++ blanks n) = plainWidth s + n := by
  have whole : plainWidth (s ++ blanks n) = ((measured s (0, {})).1 + n).toNat := by
    have parted : measured (s ++ blanks n) (0, {}) = measured s (measured (blanks n) (0, {})) :=
      List.foldr_append
    have shifted := measured_shift s n 0 {}
    rw [Int.zero_add] at shifted
    rw [measured_blanks, shifted] at parted
    exact congrArg (·.1.toNat) parted
  have owed := (measured s (0, {})).2.following.owed_nonneg
  have covered := owed_measured_le s
  have alone : plainWidth s = (measured s (0, {})).1.toNat := rfl
  omega

theorem width_append_blanks (s : String) (n : Nat) :
    width (s ++ String.ofList (blanks n)) = width s + n := by
  rw [width, String.toList_append, String.toList_ofList, withoutControls_append_blanks,
    plainWidth_append_blanks, width]

theorem width_padded {columns : Nat} {s : String} (fits : width s ≤ columns) :
    width (padded columns s) = columns := by
  have filled := width_append_blanks s (columns - width s)
  rw [Nat.add_sub_cancel' fits] at filled
  exact filled

end Text
end DeviceMatrix
